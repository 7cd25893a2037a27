import Manuscript.Proofs.Document.Joints
import Manuscript.Proofs.Document.Shares
import Manuscript.Proofs.Document.Trace
import Manuscript.Proofs.Markdown.LeftOut

/-!
# Reports

A composition reports what it leaves out or changes. The composer says which token it is at,
and then what the token alone tells (`Token.omissions`): a depth out of range, rows with another
number of cells than the head, what is no paragraph in a quotation, and tokens without a place.
The formatter reports an error for each formula that stays as it is written, and for nothing
else (`Reports`). The bridge must not speak for others (`Bridge.IsModest`), as the one over two
steps does not (`Converters.bridge_isModest`).

* `Accounts`: an activity reports the runs in what it gives, with one rule for each way to put
  activities together;
* `exists_parts_of_compose`: the notices of a composition, token by token;
* `losses_reported`: what is left out or changed of tokens and of lists is reported, each once
  and in order.
-/

namespace Manuscript.Work

open Manuscript.Log

/-- Where a step and what follows give something, the notices are those of the one and then
    those of the other. -/
theorem ok_of_bind {σ ε α β : Type} {w : Work σ ε α} {next : α → Work σ ε β} {s s'' : σ} {b : β}
    {said : List Notice} (h : (w >>= next) s = ⟨.ok b, said, s''⟩) :
    ∃ a first s' others, w s = ⟨.ok a, first, s'⟩ ∧ next a s' = ⟨.ok b, others, s''⟩
      ∧ said = first ++ others := by
  rcases hw : w s with ⟨e | a, first, s'⟩
  · rw [bind_error hw] at h
    cases h
  · rw [bind_ok hw] at h
    rcases hnext : next a s' with ⟨result, others, t⟩
    rw [hnext] at h
    cases h
    exact ⟨a, first, s', others, rfl, hnext, rfl⟩

end Manuscript.Work

namespace Manuscript.Formula

open Manuscript.Log Manuscript.Work

/-! ## Modest bridges -/

/-- An activity of which all notices are those of a bridge. -/
def IsModest {σ ε α : Type} (w : Work σ ε α) : Prop :=
  ∀ s, ∀ n ∈ (w s).notices, n.source = .bridge

/-- A bridge that speaks for itself only. -/
def Bridge.IsModest {σ : Type} (b : Bridge σ) : Prop :=
  ∀ latex display, Formula.IsModest (b.convert latex display)

namespace IsModest

variable {σ ε α β : Type} {w : Work σ ε α}

theorem of_silent (h : ∀ s, (w s).notices = []) : IsModest w := fun s n hn => by
  rw [h s] at hn
  cases hn

theorem tell {n : Notice} (h : n.source = .bridge) : IsModest (Work.tell n : Work σ ε Unit) :=
  fun _ => List.forall_mem_singleton.2 h

theorem bind {next : α → Work σ ε β} (h : IsModest w) (h' : ∀ a, IsModest (next a)) :
    IsModest (w >>= next) := by
  intro s
  have hfirst := h s
  rcases hw : w s with ⟨e | a, first, s'⟩
  · rw [hw] at hfirst
    rw [bind_error hw]
    exact hfirst
  · rw [hw] at hfirst
    rw [bind_ok hw]
    exact List.forall_mem_append.2 ⟨hfirst, h' a s'⟩

theorem mapFault {δ : Type} (f : ε → δ) (h : IsModest w) : IsModest (Work.mapFault f w) := h

end IsModest

namespace Converters

variable {σ : Type} (c : Converters σ)

theorem convertNow_isModest (latex : String) (display : Bool) :
    IsModest (c.convertNow latex display) := by
  have hreject (latex : String) (r : Reason) :
      IsModest (reject latex r : Work (Engine σ) Fault Document.MathObject) :=
    .of_silent fun _ => rfl
  have hfinish (markup : String) : IsModest (c.finish latex display markup) :=
    .bind (.of_silent fun _ => rfl) fun _ => .bind (.of_silent fun _ => rfl) fun _ =>
      .of_silent fun _ => rfl
  have hchecked (source : List Char) : IsModest (c.convertChecked latex display source) := by
    unfold convertChecked
    dsimp only
    split
    on_goal 1 => refine .bind (.tell rfl) fun _ => ?_
    all_goals
      exact .bind (.of_silent fun _ => rfl) fun _ => .bind (.of_silent fun _ => rfl) hfinish
  unfold convertNow
  dsimp only
  split
  · exact hreject _ _
  · split
    · exact hreject _ _
    · exact hchecked _

theorem start_isModest : IsModest c.start := by
  have hput (e : Engine σ) : IsModest (Work.put e : Work (Engine σ) Fault Unit) :=
    .of_silent fun _ => rfl
  have hstate : IsModest (Work.state : Work (Engine σ) Fault (Engine σ)) := .of_silent fun _ => rfl
  unfold start
  refine hstate.bind fun _ => ?_
  split
  · exact .of_silent fun _ => rfl
  · refine hstate.bind fun _ => (hput _).bind fun _ => ?_
    refine .bind (.mapFault _ (c.convertNow_isModest _ _)) fun _ => ?_
    exact hstate.bind fun _ => (hput _).bind fun _ => .tell rfl

/-- The bridge over two steps tells that it has started and that it has replaced text. -/
theorem bridge_isModest : c.bridge.IsModest := by
  intro latex display
  refine .bind (.bind (.of_silent fun _ => rfl) fun e => ?_) fun _ => c.convertNow_isModest _ _
  split
  · exact .of_silent fun _ => rfl
  · intro e
    -- There is one caller.
    have hnotices : (c.startFor 1 e).notices = (c.start e).notices := by
      simp only [startFor, Work.pure_apply, List.append_nil]
    rw [hnotices]
    exact c.start_isModest e

end Converters

end Manuscript.Formula

namespace Manuscript.Document

open Manuscript.Formula Manuscript.Inline Manuscript.Log Manuscript.Style Manuscript.Work

/-! ## What tokens tell -/

theorem clampDepth_eq_iff {depth : Int} : clampDepth depth = depth ↔ 1 ≤ depth ∧ depth ≤ 6 := by
  unfold clampDepth
  omega

/-- The rows with another number of cells than there are columns, numbered from a number on. -/
def raggedRows (columns : Nat) : (number : Nat) → List (List String) → List Notice
  | _, [] => []
  | number, row :: rest =>
    (if row.length = columns then [] else [.ragged number row.length columns])
      ++ raggedRows columns (number + 1) rest

/-- What is left out or changed of a token, whatever its formulas come to. -/
def Token.omissions : Token → List Notice
  | .heading depth _ => if 1 ≤ depth ∧ depth ≤ 6 then [] else [.clamped depth (clampDepth depth)]
  | .blockquote tokens =>
    (tokens.filter fun t => t.paragraph?.isNone).map fun t => .leftOutOfQuote t.kind
  | .table header rows _ => raggedRows header.length 1 rows
  | .other type _ => [.unhandled type]
  | _ => []

/-- What the composer says of a token. -/
def Token.record (token : Token) : List Notice := .composing token.kind :: token.omissions

/-- The call for a formula that stays as it is written. -/
def Run.fallback? (r : Run) : Option Call :=
  match r.content with
  | .styled t => if t.fallback then some r.segment.call else none
  | _ => none

end Manuscript.Document

namespace Manuscript.Log

open Manuscript.Formula

/-- The call for a formula of which a notice says that it stays as it is written. -/
def Notice.fallback? : Notice → Option Call
  | fallback display latex _ => some (latex, display)
  | _ => none

end Manuscript.Log

namespace Manuscript.Document

open Manuscript.Formula Manuscript.Inline Manuscript.Log Manuscript.Style Manuscript.Work

/-! ## Reports -/

/-- Some notices say of some runs which formulas among them stay as they are written, by one
    error for each and no other error; those of the composer are given. -/
structure Reports (runs : List Run) (own said : List Notice) : Prop where
  composer : said.filter (·.source == .composer) = own
  errors : (said.filter (·.level == .error)).map Notice.fallback?
    = (runs.filterMap Run.fallback?).map some

namespace Reports

variable {runs runs' : List Run} {own own' said said' : List Notice}

theorem nil : Reports [] [] [] := ⟨rfl, rfl⟩

theorem append (h : Reports runs own said) (h' : Reports runs' own' said') :
    Reports (runs ++ runs') (own ++ own') (said ++ said') where
  composer := by rw [List.filter_append, h.composer, h'.composer]
  errors := by
    rw [List.filter_append, List.map_append, h.errors, h'.errors, List.filterMap_append,
      List.map_append]

/-- A notice of the composer. -/
theorem single {n : Notice} (hsource : n.source = .composer) : Reports [] [n] [n] where
  composer := List.filter_cons_of_pos (beq_iff_eq.2 hsource)
  errors := by
    have hlevel : (n.level == .error) = false := by
      cases n <;> first | rfl | cases hsource
    rw [List.filter_singleton, hlevel]
    rfl

end Reports

/-- Where an activity gives something, its notices report the runs in it, and those of the
    composer are given. -/
def Accounts {σ ε α : Type} (runs : α → List Run) (own : List Notice) (w : Work σ ε α) : Prop :=
  ∀ s a said s', w s = ⟨.ok a, said, s'⟩ → Reports (runs a) own said

namespace Accounts

variable {σ ε α β γ : Type} {runs : α → List Run} {runs' : β → List Run} {runs'' : γ → List Run}
  {own own' : List Notice} {w : Work σ ε α}

theorem pure {a : α} (h : runs a = []) : Accounts runs [] (Pure.pure a : Work σ ε α) := by
  rintro s _ _ _ ⟨⟩
  rw [h]
  exact .nil

theorem fail {e : ε} : Accounts runs own (Work.fail e : Work σ ε α) := by
  rintro s _ _ _ ⟨⟩

theorem tell {n : Notice} (hsource : n.source = .composer) :
    Accounts (fun _ => []) [n] (Work.tell n : Work σ ε Unit) := by
  rintro s _ _ _ ⟨⟩
  exact .single hsource

/-- Two activities, and what is made of what they give. -/
theorem both {v : α → Work σ ε β} {f : α → β → γ} (h : Accounts runs own w)
    (h' : ∀ a, Accounts runs' own' (v a)) (hf : ∀ a b, runs'' (f a b) = runs a ++ runs' b) :
    Accounts runs'' (own ++ own') (do
      let a ← w
      let b ← v a
      return f a b) := by
  intro s c said s' hrun
  obtain ⟨a, first, t, others, hw, hrest, rfl⟩ := ok_of_bind hrun
  obtain ⟨b, second, u, _, hv, ⟨⟩, rfl⟩ := ok_of_bind hrest
  rw [List.append_nil, hf]
  exact (h _ _ _ _ hw).append (h' a _ _ _ _ hv)

/-- What is made of what an activity gives. -/
theorem map {f : α → β} (h : Accounts runs own w) (hf : ∀ a, runs' (f a) = runs a) :
    Accounts runs' own (do
      let a ← w
      return f a) := by
  intro s b said s' hrun
  obtain ⟨a, first, t, _, hw, ⟨⟩, rfl⟩ := ok_of_bind hrun
  rw [List.append_nil, hf]
  exact h _ _ _ _ hw

/-- An activity that gives no runs comes first. -/
theorem after {v : α → Work σ ε β} (h : Accounts (fun _ => []) own w)
    (h' : ∀ a, Accounts runs' own' (v a)) : Accounts runs' (own ++ own') (w >>= v) := by
  intro s b said s' hrun
  obtain ⟨a, first, t, others, hw, hv, rfl⟩ := ok_of_bind hrun
  exact (h _ _ _ _ hw).append (h' a _ _ _ _ hv)

/-- An activity for each member of a list, of which the composer says nothing. -/
theorem forEach {f : β → Work σ ε α} (h : ∀ b, Accounts runs [] (f b)) (bs : List β) :
    Accounts (List.flatMap runs) [] (Work.forEach f bs) := by
  induction bs with
  | nil => exact .pure rfl
  | cons b rest ih => exact (h b).both (fun _ => ih) fun _ _ => List.flatMap_cons

end Accounts

/-! ## Formulas -/

section Formulas

variable {σ : Type} {bridge : Bridge σ} {config : Config}

/-- What a bridge says of itself is no report. -/
theorem Reports.ofBridge {said : List Notice} (h : ∀ n ∈ said, n.source = .bridge) :
    Reports [] [] said where
  composer := by
    rw [List.filter_eq_nil_iff]
    intro n hn
    rw [h n hn]
    decide
  errors := by
    have hnone : said.filter (·.level == .error) = [] := by
      rw [List.filter_eq_nil_iff]
      intro n hn
      have hsource := h n hn
      cases n <;> first | decide | cases hsource
    rw [hnone]
    rfl

/-- A notice of the formatter on some runs: an error if one of them stays as it is written. -/
theorem Reports.ofFormatter {n : Notice} {runs : List Run} (hsource : n.source = .formatter)
    (hlevel : (n.level == .error) = n.fallback?.isSome)
    (hruns : runs.filterMap Run.fallback? = n.fallback?.toList) : Reports runs [] [n] where
  composer := by
    rw [List.filter_singleton, hsource]
    rfl
  errors := by
    rw [List.filter_singleton, hlevel, hruns]
    cases hcall : n.fallback? with
    | none => rfl
    | some call => exact congrArg (fun c => [c]) hcall

theorem formulaContent_reports (hbridge : bridge.IsModest) {s : Segment} {t t' : σ}
    {content : Content} {said : List Notice}
    (h : formulaContent bridge config s t = ⟨.ok content, said, t'⟩) :
    Reports [⟨s.kind, String.ofList s.raw, content⟩] [] said := by
  have hsaid := hbridge (formulaOf s) (s.kind == .displayMath) t
  obtain ⟨_, _, _, others, ⟨⟩, hrest, rfl⟩ := ok_of_bind h
  have hasked : Reports [] [] [.formula (s.kind == .displayMath) (formulaOf s)] :=
    .ofFormatter rfl rfl rfl
  refine hasked.append ?_
  unfold Work.onFault at hrest
  rcases hc : bridge.convert (formulaOf s) (s.kind == .displayMath) t with ⟨e | m, first, u⟩
  · rw [hc] at hsaid
    rw [bind_error hc] at hrest
    cases e with
    | rejected latex reason =>
      -- The run is the source of the formula, and the error tells the call for it.
      cases hrest
      refine (Reports.ofBridge hsaid).append (.ofFormatter rfl rfl ?_)
      have hcall : Run.fallback? ⟨s.kind, String.ofList s.raw, .styled (fallbackText config s)⟩
          = some (formulaOf s, s.kind == .displayMath) := by
        rw [Run.fallback?, Run.segment, String.toList_ofList]
        rfl
      rw [List.filterMap_cons_some hcall]
      rfl
    | notStarted reason => cases hrest
    | escaped escape => cases hrest
  · rw [hc] at hsaid
    rw [bind_ok hc] at hrest
    cases hrest
    exact (Reports.ofBridge hsaid).append (.ofFormatter rfl rfl rfl)

theorem formatSegment_accounts (hbridge : bridge.IsModest) (s : Segment) :
    Accounts (fun r => [r]) [] (formatSegment bridge config s) := by
  intro t r said t' h
  unfold formatSegment at h
  split at h
  · obtain ⟨content, first, u, _, hcontent, ⟨⟩, rfl⟩ := ok_of_bind h
    rw [List.append_nil]
    exact formulaContent_reports hbridge hcontent
  · cases h
    exact ⟨rfl, rfl⟩

theorem runsOf_accounts (hbridge : bridge.IsModest) (text : String) :
    Accounts id [] (runsOf bridge config text) := by
  intro t runs said t' h
  have hformat : Accounts (List.flatMap fun r => [r]) [] (format bridge config text) :=
    .forEach (formatSegment_accounts hbridge) _
  rcases hrun : format bridge config text t.bridge with ⟨e | runs', said', u⟩
  · rw [runsOf, onBridge_error hrun] at h
    cases h
  · rw [runsOf, onBridge_ok hrun] at h
    cases h
    have hreports := hformat _ _ _ _ hrun
    rwa [List.flatMap_singleton'] at hreports

end Formulas

/-! ## Blocks -/

section Blocks

variable {σ : Type} {bridge : Bridge σ} (hbridge : bridge.IsModest) (config : Config)
include hbridge

theorem itemBlocks_accounts (ordered : Bool) (list start : Int) (spacing : Spacing)
    (items : List String) :
    Accounts (List.flatMap Block.runs) []
      (itemBlocks bridge config ordered list start spacing items) := by
  induction items generalizing spacing with
  | nil => exact .pure rfl
  | cons item rest ih =>
    exact (runsOf_accounts hbridge item).both (fun _ => ih itemSpacing) fun _ _ => rfl

/-- Of a quotation, all is named that is no paragraph right in it. -/
theorem quoteBlocks_accounts (tokens : List Token) :
    Accounts (List.flatMap Block.runs) (Token.blockquote tokens).omissions
      (quoteBlocks bridge config tokens) := by
  induction tokens with
  | nil => exact .pure rfl
  | cons token rest ih =>
    cases token with
    | paragraph text => exact (runsOf_accounts hbridge text).both (fun _ => ih) fun _ _ => rfl
    | _ => exact .after (.tell rfl) fun _ => ih

theorem cellsOf_accounts (width : Int) (looks : CellLooks) (cells : List (String × Option String)) :
    Accounts (List.flatMap Cell.runs) [] (cellsOf bridge config width looks cells) := by
  have hcell (cell : String × Option String) : Accounts Cell.runs [] (do
      let runs ← runsOf bridge config cell.1
      return (⟨runs, width, looks.margins, looks.spacing, cell.2⟩ : Cell)) :=
    (runsOf_accounts hbridge cell.1).map fun _ => rfl
  exact Accounts.forEach hcell cells

/-- Of a table, each row is named that has too many or too few cells. -/
theorem dataRows_accounts (columns : Nat) (width : Int) (align : List (Option String))
    (number : Nat) (rows : List (List String)) :
    Accounts (List.flatMap Row.runs) (raggedRows columns number rows)
      (dataRows bridge config columns width align number rows) := by
  induction rows generalizing number with
  | nil => exact .pure rfl
  | cons row rest ih =>
    -- The row is composed alike whether it is named before or not.
    have hrow : Accounts (List.flatMap Row.runs) (raggedRows columns (number + 1) rest) (do
        let cells ← cellsOf bridge config width dataLooks ((fitTo columns "" row).zip align)
        let rows ← dataRows bridge config columns width align (number + 1) rest
        return ({ cells, minHeight := some 400 } : Row) :: rows) :=
      (cellsOf_accounts hbridge config width dataLooks _).both (fun _ => ih (number + 1))
        fun _ _ => rfl
    unfold dataRows raggedRows
    by_cases hlength : row.length = columns
    · rw [if_pos hlength, if_neg (by simpa using hlength)]
      exact hrow
    · rw [if_neg hlength, if_pos (by simpa using hlength)]
      exact .after (.tell rfl) fun _ => hrow

theorem tableBlock_accounts (header : List String) (rows : List (List String))
    (align : List (Option String)) :
    Accounts Block.runs (raggedRows header.length 1 rows)
      (tableBlock bridge config header rows align) := by
  unfold tableBlock
  dsimp only
  split
  · exact .fail
  · refine (cellsOf_accounts hbridge config _ headerLooks _).both
      (fun _ => dataRows_accounts hbridge config header.length _ _ 1 rows) fun _ _ => rfl

theorem composeToken_accounts (token : Token) :
    Accounts (List.flatMap Block.runs) token.omissions (composeToken bridge config token) := by
  cases token with
  | heading depth text =>
    have hblock : Accounts Block.runs (Token.heading depth text).omissions
        (headingBlock (σ := σ) depth text) := by
      unfold headingBlock Token.omissions
      dsimp only
      by_cases hdepth : 1 ≤ depth ∧ depth ≤ 6
      · have hkept : (clampDepth depth != depth) = false :=
          bne_eq_false_iff_eq.2 (clampDepth_eq_iff.2 hdepth)
        rw [if_pos hdepth, hkept, if_neg Bool.false_ne_true]
        exact .pure rfl
      · have hclamped : (clampDepth depth != depth) = true :=
          bne_iff_ne.2 fun h => hdepth (clampDepth_eq_iff.1 h)
        rw [if_neg hdepth, hclamped, if_pos rfl]
        exact .after (.tell rfl) fun _ => .pure rfl
    exact hblock.map fun _ => List.flatMap_singleton _ _
  | paragraph text =>
    exact (runsOf_accounts hbridge text).map fun _ => List.flatMap_singleton _ _
  | list ordered items start =>
    have hlist : Accounts (fun _ => []) [] (nextList (σ := σ) ordered) := by
      cases ordered <;> rintro t _ _ _ ⟨⟩ <;> exact .nil
    exact hlist.after fun _ => itemBlocks_accounts hbridge config ordered _ start _ items
  | blockquote tokens => exact quoteBlocks_accounts hbridge config tokens
  | table header rows align =>
    exact (tableBlock_accounts hbridge config header rows align).map fun _ =>
      List.flatMap_singleton _ _
  | other type raw => exact .after (.tell rfl) fun _ => .pure rfl
  | unknown => exact .fail
  | _ => exact .pure rfl

end Blocks

/-! ## Whole compositions -/

/-- The notices of an activity for each member of a list come in parts, one for each. -/
theorem exists_parts_of_forEach {σ ε α β : Type} {f : α → Work σ ε β} {Q : β → List Notice → Prop}
    (hf : ∀ a s b said s', f a s = ⟨.ok b, said, s'⟩ → Q b said) {as : List α} {s s' : σ}
    {bs : List β} {said : List Notice} (h : forEach f as s = ⟨.ok bs, said, s'⟩) :
    ∃ parts : List (List Notice), parts.flatten = said ∧ List.Forall₂ Q bs parts := by
  induction as generalizing s bs said with
  | nil =>
    cases h
    exact ⟨[], rfl, .nil⟩
  | cons a rest ih =>
    obtain ⟨b, first, t, others, hb, hrest, rfl⟩ := ok_of_bind h
    obtain ⟨bs', second, u, _, hbs, ⟨⟩, rfl⟩ := ok_of_bind hrest
    obtain ⟨parts, rfl, hparts⟩ := ih hbs
    rw [List.append_nil]
    exact ⟨first :: parts, rfl, .cons (hf _ _ _ _ _ hb) hparts⟩

/-- Some notices report the own blocks of a token. -/
def Composed.IsReported (x : Composed) (said : List Notice) : Prop :=
  Reports (x.blocks.flatMap Block.runs) x.token.record said

theorem Reports.flatten {xs : List Composed} {parts : List (List Notice)}
    (h : List.Forall₂ Composed.IsReported xs parts) :
    Reports ((xs.flatMap Composed.blocks).flatMap Block.runs)
      ((xs.map Composed.token).flatMap Token.record) parts.flatten := by
  induction h with
  | nil => exact .nil
  | cons hx _ ih =>
    rw [List.flatMap_cons, List.flatMap_append, List.map_cons, List.flatMap_cons,
      List.flatten_cons]
    exact Reports.append hx ih

theorem runs_spaced (c : Coordinator) (xs : List Composed) :
    (spaced c xs).flatMap Block.runs = (xs.flatMap Composed.blocks).flatMap Block.runs := by
  induction xs generalizing c with
  | nil => rfl
  | cons x rest ih =>
    rw [spaced_cons, List.flatMap_append, List.flatMap_append, runs_spacer, ih, List.nil_append,
      List.flatMap_cons, List.flatMap_append]

/-- Only the composer warns. -/
theorem Reports.warnings {runs : List Run} {own said : List Notice} (h : Reports runs own said) :
    said.filter (·.level == .warning) = own.filter (·.level == .warning) := by
  rw [← h.composer, List.filter_filter]
  exact List.filter_congr fun n _ => by cases n <;> rfl

section Compositions

variable {σ : Type} {bridge : Bridge σ} {config : Config} {tokens : List Token}
  {t t' : Composition σ} {blocks : List Block} {said : List Notice}

/-- The composer says which token it is at, and then what it tells of it. -/
theorem composed_isReported (hbridge : bridge.IsModest) (config : Config) (token : Token)
    (s : Composition σ) (x : Composed) (part : List Notice) (s' : Composition σ)
    (h : (do
      Work.tell (.composing token.kind)
      return (⟨token, ← composeToken bridge config token⟩ : Composed)) s = ⟨.ok x, part, s'⟩) :
    x.IsReported part := by
  obtain ⟨_, _, _, others, ⟨⟩, hrest, rfl⟩ := ok_of_bind h
  obtain ⟨own, second, v, _, hown, ⟨⟩, rfl⟩ := ok_of_bind hrest
  rw [List.append_nil]
  exact .append (.single rfl) (composeToken_accounts hbridge config token _ _ _ _ hown)

/-- The notices of a composition come in parts, one for each token, that report its own
    blocks. -/
theorem exists_parts_of_compose (hbridge : bridge.IsModest)
    (h : compose bridge config tokens t = ⟨.ok blocks, said, t'⟩) :
    ∃ (xs : List Composed) (parts : List (List Notice)), spaced {} xs = blocks
      ∧ xs.map Composed.token = tokens ∧ (∀ x ∈ xs, x.HasShape)
      ∧ parts.flatten = said ∧ List.Forall₂ Composed.IsReported xs parts := by
  rw [compose, composeFrom_eq_spaced, map_eq_pure_bind] at h
  obtain ⟨xs, first, u, _, hxs, ⟨⟩, rfl⟩ := ok_of_bind h
  obtain ⟨htokens, hshape⟩ := (composeEach_gives bridge config tokens).of_run hxs
  obtain ⟨parts, hparts, hreported⟩ :=
    exists_parts_of_forEach (composed_isReported hbridge config) hxs
  rw [List.append_nil]
  exact ⟨xs, parts, rfl, htokens, hshape, hparts, hreported⟩

end Compositions

/-- Nothing is left out or changed in silence. Of tokens that are composed, the composer tells
    each in its turn, with the depth, the rows, the parts of a quotation and the kinds that it
    has no place for; there are no other warnings. There is one error for each formula that
    stays as it is written, in the order in which the blocks are read, and no other. The notices
    come token by token, those of a token with the errors for its own blocks. Of a list, the
    reader names each heading, table and aside in its items that stands in no other one. -/
theorem losses_reported {σ : Type} (bridge : Bridge σ) (hbridge : bridge.IsModest) :
    (∀ (config : Config) (tokens : List Token) (t t' : Composition σ) (blocks : List Block)
        (said : List Notice), compose bridge config tokens t = ⟨.ok blocks, said, t'⟩ →
      said.filter (·.source == .composer) = tokens.flatMap Token.record
      ∧ said.filter (·.level == .warning)
        = (tokens.flatMap Token.omissions).filter (·.level == .warning)
      ∧ (said.filter (·.level == .error)).map Notice.fallback?
        = ((blocks.flatMap Block.runs).filterMap Run.fallback?).map some
      ∧ ∃ (xs : List Composed) (parts : List (List Notice)), spaced {} xs = blocks
        ∧ xs.map Composed.token = tokens ∧ (∀ x ∈ xs, x.HasShape)
        ∧ parts.flatten = said ∧ List.Forall₂ Composed.IsReported xs parts)
    ∧ ∀ (list : Markdown.Part) (line depth : Nat) (start : Option Nat) (style : Option String)
        (es : List Markdown.Event) (events : Array Markdown.Event) (i : Nat),
      list = .bulletList ∨ list = .orderedList → Markdown.IsListed .items es →
      Markdown.Stands events i (.enter list line depth start style :: es ++ [.leave list]) →
      ∃ p, Markdown.Reads events (i + 1) (Markdown.Reading.items events list · (i + 1)) (some p)
        ∧ p.said.filterMap Markdown.leftOutOfItem? = Markdown.leftOut [list] es := by
  refine ⟨fun config tokens t t' blocks said h => ?_, ?_⟩
  · obtain ⟨xs, parts, rfl, rfl, hshape, rfl, hparts⟩ := exists_parts_of_compose hbridge h
    have hreports := Reports.flatten hparts
    have hwarnings : ((xs.map Composed.token).flatMap Token.record).filter (·.level == .warning)
        = ((xs.map Composed.token).flatMap Token.omissions).filter (·.level == .warning) := by
      rw [List.filter_flatMap, List.filter_flatMap]
      rfl
    refine ⟨hreports.composer, hreports.warnings.trans hwarnings, ?_, xs, parts, rfl, rfl, hshape,
      rfl, hparts⟩
    rw [runs_spaced]
    exact hreports.errors
  · exact fun _ _ _ _ _ _ _ _ hlist hes hs => Markdown.items_of_isListed hlist hes hs

/-- Tokens of which something is left out or changed, each in its own way. -/
def lossyTokens : List Token :=
  [.heading 9 "a", .paragraph "$x$ and $y$", .blockquote [.rule, .paragraph "$x$"],
    .table ["b", "c"] [["d"], ["e", "$x$"]] [], .other "html_block" "<br>"]

/-- The reports on these, and on a list with a heading in its second item. -/
theorem losses_reported_lossyTokens :
    ∃ blocks said t', compose (rejecting "x") .standard lossyTokens ⟨0, ()⟩ = ⟨.ok blocks, said, t'⟩
      ∧ said.filter (·.source == .composer)
        = [.composing .heading, .clamped 9 6, .composing .paragraph, .composing .blockquote,
            .leftOutOfQuote .rule, .composing .table, .ragged 1 1 2, .composing .other,
            .unhandled "html_block"]
      ∧ (said.filter (·.level == .error)).map Notice.fallback?
        = [some ("x", false), some ("x", false), some ("x", false)]
      ∧ ∃ p, Markdown.Reading.items
          (Markdown.Event.ofBlock (.list 0 (some 1) Markdown.twoItems)).toArray .orderedList 40 1
            = some p
        ∧ p.said.filterMap Markdown.leftOutOfItem? = ["heading_open"] := by
  have hmodest : (rejecting "x").IsModest := by
    intro latex display
    unfold rejecting
    dsimp only
    split <;> exact .of_silent fun _ => rfl
  obtain ⟨hcompose, hlist⟩ := losses_reported (rejecting "x") hmodest
  have hok : (compose (rejecting "x") .standard lossyTokens ⟨0, ()⟩).result.isOk = true := by
    decide +kernel
  have hruns : (((compose (rejecting "x") .standard lossyTokens ⟨0, ()⟩).result.toOption.getD
      []).flatMap Block.runs).filterMap Run.fallback? = [("x", false), ("x", false), ("x", false)] := by
    decide +kernel
  rcases hrun : compose (rejecting "x") .standard lossyTokens ⟨0, ()⟩ with ⟨result, said, t'⟩
  rw [hrun] at hok hruns
  obtain ⟨blocks, rfl⟩ := Success.exists_eq_ok hok
  obtain ⟨hcomposer, -, herrors, -⟩ := hcompose _ _ _ _ _ _ hrun
  refine ⟨blocks, said, t', rfl, hcomposer, ?_, ?_⟩
  · exact herrors.trans (congrArg (List.map some) hruns)
  · obtain ⟨p, hreads, hsaid⟩ := hlist .orderedList 0 0 none none _ _ 0 (.inr rfl)
      (.of_isNested (Markdown.isNested_ofItems 0 Markdown.twoItems)) (Markdown.Stands.toArray _)
    exact ⟨p, hreads 40 (by decide), hsaid.trans (by decide)⟩

end Manuscript.Document
