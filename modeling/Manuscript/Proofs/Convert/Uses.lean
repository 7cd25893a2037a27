import Manuscript.Proofs.Convert.Stages
import Manuscript.Proofs.Document.InStep
import Manuscript.Proofs.Inline.Cut
import Manuscript.Proofs.Markdown.Characters

/-!
# Uses of the bridge

A text is searched for a dollar sign before anything is done with it, and only if it has
one the bridge is made ready. Formulas are found much later, in paragraphs, items, cells
and quotations, each put together of parts of the text. That no formula is found where
the search found no sign rests on what the characters of the blocks of a text are.

Any bridge can be recorded (`Bridge.recorded`): it does as before, and its uses stand in
its state.

* `IsCut.dollar_mem`: inline source with a formula has a dollar sign;
* `convertReady_follows`: conversions over two bridges in step;
* `uses_convert`: what a conversion uses its bridge for, and in which order.
-/

namespace Manuscript.Formula

open Manuscript.Document Manuscript.Work

variable {σ : Type}

/-- A use of a bridge, with what comes of it. -/
inductive Use where
  /-- It is made ready. -/
  | ready (result : Except Fault Unit)
  /-- It converts a formula. -/
  | convert (latex : String) (display : Bool) (result : Except Fault MathObject)

/-- Whether a formula is converted. -/
def Use.IsConversion : Use → Prop
  | ready _ => False
  | convert .. => True

/-- An activity of a bridge that is recorded as a use of it. -/
def recording {α : Type} (use : Except Fault α → Use) (w : Work σ Fault α) :
    Work (σ × List Use) Fault α := fun s =>
  let o := w s.1
  ⟨o.result, o.notices, o.state, s.2 ++ [use o.result]⟩

/-- A bridge that keeps its uses. -/
def Bridge.recorded (b : Bridge σ) : Bridge (σ × List Use) where
  ready := recording .ready b.ready
  isReady s := b.isReady s.1
  convert latex display := recording (.convert latex display) (b.convert latex display)

theorem recording_follows {α : Type} (use : Except Fault α → Use) (w : Work σ Fault α) :
    Follows (fun s t => s.1 = t) (recording use w) w := by
  rintro s _ rfl
  exact ⟨rfl, rfl, rfl⟩

end Manuscript.Formula

namespace Manuscript.Inline

open Manuscript.Formula

theorem isMath_of_spanSegment {kind : Kind} {mark body : List Char}
    (h : (spanSegment kind mark body).kind.isMath = true) :
    kind = .inlineMath ∨ kind = .displayMath := by
  have hkind : (spanSegment kind mark body).kind = .plain
      ∨ (spanSegment kind mark body).kind = kind := by
    unfold spanSegment
    dsimp only
    split
    · exact .inl rfl
    · exact .inr rfl
  rcases hkind with hkind | hkind
  · rw [hkind] at h
    cases h
  · rw [hkind] at h
    cases kind with
    | inlineMath => exact .inl rfl
    | displayMath => exact .inr rfl
    | _ => cases h

/-- Only where there is a dollar sign a formula is cut out. -/
theorem IsCut.dollar_mem {cs : List Char} {cut : List Segment} (h : IsCut cs cut) {s : Segment}
    (hs : s ∈ cut) (hmath : s.kind.isMath = true) : '$' ∈ cs := by
  have hgap {before : List Char} : s ∉ gap before := by
    intro hs
    unfold gap at hs
    split at hs
    · cases hs
    · obtain rfl := List.mem_singleton.1 hs
      cases hmath
  induction h with
  | last _ => exact absurd hs hgap
  | @span before cs mark body rest kind segments _ hleads _ ih =>
    refine List.mem_append_right _ ?_
    rw [hleads.fits.text_eq]
    rcases List.mem_append.1 hs with hs | hs
    · exact absurd hs hgap
    · rcases List.mem_cons.1 hs with rfl | hs
      · have hmark := hleads.fits.mark_mem
        have hdollar : '$' ∈ mark := by
          cases isMath_of_spanSegment hmath with
          | inl hkind =>
            rw [hkind] at hmark
            exact List.mem_singleton.1 hmark ▸ List.mem_cons_self
          | inr hkind =>
            rw [hkind] at hmark
            exact List.mem_singleton.1 hmark ▸ List.mem_cons_self
        simp only [List.append_assoc]
        exact List.mem_append_left _ hdollar
      · exact List.mem_append_right _ (ih hs)

/-- Inline source without a dollar sign has no formulas. -/
theorem Segment.calls_eq_nil {cs : List Char} (h : '$' ∉ cs) :
    Segment.calls (splitRuns cs) = [] := by
  refine List.map_eq_nil_iff.2 (List.filter_eq_nil_iff.2 fun s hs hmath => ?_)
  exact h ((isCut_segments cs).dollar_mem (List.mem_filter.1 hs).1 hmath)

end Manuscript.Inline

namespace Manuscript.Convert

open Manuscript.Document Manuscript.Formula Manuscript.Inline Manuscript.Log Manuscript.Markdown
  Manuscript.Style Manuscript.Work

variable {σ τ : Type}

/-! ## In step -/

section InStep

variable {R : σ → τ → Prop} {b : Bridge σ} {b' : Bridge τ} {config : Config} {text : List Char}

theorem composition_follows {α : Type} {w : Work (Composition σ) Document.Fault α}
    {v : Work (Composition τ) Document.Fault α} (h : Follows (Composition.Related R) w v) :
    Follows R (composition w) (composition v) := fun s t hst =>
  have ⟨hresult, hsaid, hstate⟩ := h { bridge := s } { bridge := t } ⟨rfl, hst⟩
  ⟨congrArg (Except.mapError _) hresult, hsaid, hstate.bridge⟩

/-- The same is made of a text over two bridges that make the same runs of the texts of its
    tokens. -/
theorem convertReady_follows
    (h : ∀ stream, (tokenize text).1 = .ok stream → ∀ token ∈ stream.tokens,
      ∀ source ∈ token.sources, FollowsAt b b' config R source) :
    Follows R (convertReady b config text) (convertReady b' config text) := by
  refine .bind (.bind_of_run (fun _ _ hst => ⟨rfl, rfl, hst⟩) fun s stream hstream => ?_)
    fun document => ?_
  · have hstream : (tokenize text).1 = .ok stream := Success.mapError_eq_ok_iff.1 hstream
    have hblocks := composition_follows (compose_follows (h stream hstream))
    refine .bind (.tell _) fun _ => ?_
    split
    · exact .bind (.tell _) fun _ => hblocks.bind fun _ => .pure _
    · exact hblocks.bind fun _ => .pure _
  · exact .bind (.tell _) fun _ => .ofExcept _

/-- Over two bridges that answer alike to every formula. -/
theorem convertReady_follows_of_convert
    (h : ∀ latex display, Follows R (b.convert latex display) (b'.convert latex display)) :
    Follows R (convertReady b config text) (convertReady b' config text) :=
  convertReady_follows fun _ _ _ _ _ _ => format_follows fun call _ => h call.1 call.2

/-- Over any two bridges, if the text has no dollar sign. -/
theorem convertReady_follows_of_not_mem (htext : '$' ∉ text) :
    Follows R (convertReady b config text) (convertReady b' config text) := by
  refine convertReady_follows fun stream hstream token htoken source hsource => ?_
  -- The sign is none of the characters that reading makes up.
  have hnone : '$' ∉ source.toList := fun hmem =>
    has_of_mem_sources (P := (· ≠ '$')) (by decide) (by decide) (by decide)
      (fun c hc heq => htext (heq ▸ hc)) hstream htoken hsource '$' hmem rfl
  refine format_follows fun call hcall => ?_
  rw [Segment.calls_eq_nil hnone] at hcall
  cases hcall

end InStep

/-! ## Uses -/

section Uses

variable (b : Bridge σ) (config : Config) (text : List Char)

variable {b config text} in
/-- A property of the states of a bridge that no formula changes. -/
theorem convertReady_keeps {I : σ → Prop}
    (h : ∀ latex display, Keeps I True (b.convert latex display) fun _ => True) :
    Keeps I True (convertReady b config text) fun _ => True := by
  refine .of_state fun s hs => ?_
  -- The activity follows itself, from equal states that have the property to such.
  have hfollows : Follows (fun t t' => t = t' ∧ I t) (convertReady b config text)
      (convertReady b config text) := by
    refine convertReady_follows_of_convert fun latex display => ?_
    rintro t _ ⟨rfl, ht⟩
    exact ⟨rfl, rfl, rfl, (h latex display).state ht⟩
  exact (hfollows s s ⟨rfl, hs⟩).2.2.2

/-- Formulas are all that a conversion uses its bridge for once the bridge is ready. -/
theorem exists_uses_convertReady (s : σ) (uses : List Use) :
    ∃ later, (∀ use ∈ later, use.IsConversion)
      ∧ (convertReady b.recorded config text (s, uses)).state.2 = uses ++ later := by
  have hkeeps : Keeps (fun t : σ × List Use => ∃ later, (∀ use ∈ later, use.IsConversion)
      ∧ t.2 = uses ++ later) True (convertReady b.recorded config text) fun _ => True := by
    refine convertReady_keeps fun latex display => .of_state ?_
    rintro t ⟨later, hlater, ht⟩
    refine ⟨later ++ [.convert latex display (b.convert latex display t.1).result],
      List.forall_mem_append.2 ⟨hlater, fun use huse => ?_⟩, ?_⟩
    · rw [List.mem_singleton.1 huse]
      trivial
    · rw [← List.append_assoc, ← ht]
      rfl
  exact hkeeps.state ⟨[], fun _ h => absurd h List.not_mem_nil, (List.append_nil uses).symm⟩

/-- A bridge that keeps its uses makes no difference otherwise. -/
theorem convert_follows_recorded :
    Follows (fun s t => s.1 = t) (convert b.recorded config text) (convert b config text) := by
  have hready : Follows (fun s t => s.1 = t) (convertReady b.recorded config text)
      (convertReady b config text) :=
    convertReady_follows_of_convert fun latex display =>
      recording_follows (.convert latex display) _
  refine .bind (.tell _) fun _ => ?_
  unfold convertAnnounced
  split
  · exact .bind (.mapFault _ (recording_follows .ready b.ready)) fun _ => hready
  · exact hready

variable {text}

theorem needsBridge_iff : needsBridge text = true ↔ '$' ∈ text := List.contains_iff_mem

theorem convert_of_not_mem (htext : '$' ∉ text) (s : σ) :
    convert b config text s
      = ⟨(convertReady b config text s).result,
          inputNotice text :: (convertReady b config text s).notices,
          (convertReady b config text s).state⟩ := by
  have hneeds : needsBridge text = false := Bool.eq_false_iff.2 (mt needsBridge_iff.1 htext)
  rw [convert, bind_ok (w := Work.tell _) rfl, convertAnnounced, hneeds]
  rfl

/-- The bridge of a text with a dollar sign is made ready before all else. -/
theorem convert_of_ready_ok (htext : '$' ∈ text) {s s' : σ} {said : List Notice}
    (hready : b.ready s = ⟨.ok (), said, s'⟩) :
    convert b config text s
      = ⟨(convertReady b config text s').result,
          inputNotice text :: (said ++ (convertReady b config text s').notices),
          (convertReady b config text s').state⟩ := by
  rw [convert, bind_ok (w := Work.tell _) rfl, convertAnnounced, needsBridge_iff.2 htext,
    if_pos rfl, bind_ok (Work.mapFault_ok _ hready)]
  rfl

/-- If that fails, nothing else is done. -/
theorem convert_of_ready_error (htext : '$' ∈ text) {s s' : σ} {fault : Formula.Fault}
    {said : List Notice} (hready : b.ready s = ⟨.error fault, said, s'⟩) :
    convert b config text s = ⟨.error (.bridge fault), inputNotice text :: said, s'⟩ := by
  rw [convert, bind_ok (w := Work.tell _) rfl, convertAnnounced, needsBridge_iff.2 htext,
    if_pos rfl, bind_error (Work.mapFault_error _ hready)]
  rfl

end Uses

/-- A bridge that converts nothing. -/
def unusable : Bridge Unit := ⟨Work.done (), fun _ => true, fun _ _ => Work.fail (.escaped .noMarkup)⟩

/-- A text without a dollar sign comes to the same over every bridge, and leaves it as it is. -/
theorem convert_eq_of_not_mem (config : Config) {text : List Char} (htext : '$' ∉ text)
    (b : Bridge σ) (s : σ) :
    convert b config text s = ⟨(convert unusable config text ()).result,
      (convert unusable config text ()).notices, s⟩ := by
  have hfollows : Follows (fun _ t => t = s) (convertReady unusable config text)
      (convertReady b config text) := convertReady_follows_of_not_mem htext
  obtain ⟨hresult, hsaid, hstate⟩ := hfollows () s rfl
  rw [convert_of_not_mem b config htext, convert_of_not_mem unusable config htext, hstate, hresult,
    hsaid]

/-- A text without a dollar sign comes to the same over every bridge, and does not use it. With
    one, the bridge is made ready once, before the text is read. If that fails nothing else is
    done; otherwise formulas are all that the bridge is used for then. -/
theorem uses_convert (config : Config) (text : List Char) :
    ('$' ∉ text → ∃ result said, ∀ {σ : Type} (b : Bridge σ) (s : σ),
      convert b config text s = ⟨result, said, s⟩
        ∧ convert b.recorded config text (s, []) = ⟨result, said, s, []⟩) ∧
    ('$' ∈ text → ∀ {σ : Type} (b : Bridge σ) (s : σ),
      (∀ fault said s', b.ready s = ⟨.error fault, said, s'⟩ →
        convert b config text s = ⟨.error (.bridge fault), inputNotice text :: said, s'⟩
          ∧ (convert b.recorded config text (s, [])).state.2 = [.ready (.error fault)]) ∧
      (∀ said s', b.ready s = ⟨.ok (), said, s'⟩ →
        convert b config text s = ⟨(convertReady b config text s').result,
            inputNotice text :: (said ++ (convertReady b config text s').notices),
            (convertReady b config text s').state⟩
          ∧ ∃ later, (convert b.recorded config text (s, [])).state.2 = .ready (.ok ()) :: later
            ∧ ∀ use ∈ later, use.IsConversion)) ∧
    ∀ {σ : Type} (b : Bridge σ) (s : σ),
      let o := convert b.recorded config text (s, [])
      convert b config text s = ⟨o.result, o.notices, o.state.1⟩ := by
  refine ⟨fun htext => ?_, fun htext {σ} b s => ⟨fun fault said s' hready => ?_,
    fun said s' hready => ?_⟩, fun {σ} b s => ?_⟩
  · exact ⟨_, _, fun {σ} b s => ⟨convert_eq_of_not_mem config htext b s,
      convert_eq_of_not_mem config htext b.recorded (s, [])⟩⟩
  · have hrecorded :
        b.recorded.ready (s, []) = ⟨.error fault, said, s', [.ready (.error fault)]⟩ := by
      simp only [Bridge.recorded, recording, hready, List.nil_append]
    refine ⟨convert_of_ready_error b config htext hready, ?_⟩
    rw [convert_of_ready_error b.recorded config htext hrecorded]
  · have hrecorded : b.recorded.ready (s, []) = ⟨.ok (), said, s', [.ready (.ok ())]⟩ := by
      simp only [Bridge.recorded, recording, hready, List.nil_append]
    refine ⟨convert_of_ready_ok b config htext hready, ?_⟩
    obtain ⟨later, hlater, huses⟩ :=
      exists_uses_convertReady b config text s' [.ready (.ok ())]
    rw [convert_of_ready_ok b.recorded config htext hrecorded]
    exact ⟨later, huses, hlater⟩
  · obtain ⟨hresult, hsaid, hstate⟩ := convert_follows_recorded b config text (s, []) s rfl
    simp only [hresult, hsaid, hstate]

end Manuscript.Convert
