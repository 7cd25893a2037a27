import Manuscript.Proofs.Formula.Stages
import Manuscript.Proofs.Inline.Resolution

/-!
# Failures contained

What comes of a formula over two steps that are not to be trusted: each may answer any text,
whether it can be encoded or not, nothing at all, or fail in any way. The checks around the
steps make a rejection of nearly all of it; the answers that they let pass (`Escapes`) are
told apart here by the engine that converts the formula, which may have to start first
(`Converters.Escapes`).

* `convertNow_result`: a formula is converted or rejected unless an answer escapes;
* `convert_of_isReady`, `convert_of_probed`, `convert_of_not_probed`: conversion by an engine
  that has started, that starts, and that does not start;
* `isContained_iff`: what is contained, over any two steps.
-/

namespace Manuscript.Formula

open Manuscript.Document Manuscript.Text

/-- What the stages decide is a formula or a rejection. -/
theorem Decides.isAnswered {source : List Char} {first : Answer} {second : String → Answer}
    {latex : String} {display : Bool} {r : Except Fault MathObject}
    (h : Decides source first second latex display r) : IsAnswered r := by
  by_cases hfit : IsFit source
  · by_cases husable : ∃ markup, first = .text markup ∧ IsUsable markup
    · obtain ⟨markup, htext, husable⟩ := husable
      by_cases hformula : ∃ text t, (second markup).written? = some text ∧ IsFormulaIn text t
      · obtain ⟨text, t, hwritten, hformula⟩ := hformula
        exact .inl ⟨_, (h.converted markup text t hfit htext husable hwritten hformula).1⟩
      · exact .inr (h.refused markup hfit htext husable
          fun text t hwritten hin => hformula ⟨text, t, hwritten, hin⟩)
    · exact .inr (h.unusable hfit fun markup htext hin => husable ⟨markup, htext, hin⟩)
  · exact .inr (h.unfit hfit)

namespace Converters

variable {σ : Type} (c : Converters σ)

/-! ## Escapes -/

/-- An answer to a formula escapes when an engine converts it, whether it has started or not. -/
def AnswerEscapes (e : Engine σ) (latex : String) (x : Escape) : Prop :=
  Formula.Escapes (trim latex.toList) (c.firstAnswer e latex) (c.secondAnswer e latex) x

/-- An engine about to try itself. -/
def trying (e : Engine σ) : Engine σ := { e with entities := namedCharacters }

/-- The outcome for the formula that an engine tries itself with. -/
def probed (e : Engine σ) : Outcome (Engine σ) Fault MathObject := c.convertNow probe false (trying e)

/-- An answer escapes when a formula is to be converted: to the formula, or to the one that an
    engine tries itself with before. -/
def Escapes (e : Engine σ) (latex : String) (x : Escape) : Prop :=
  if e.isReady then c.AnswerEscapes e latex x
  else c.AnswerEscapes (trying e) probe x ∨
    (c.probed e).result.isOk ∧ c.AnswerEscapes (c.probed e).state latex x

/-- A formula is converted or rejected; or the engine does not start, as it rejects the
    formula that it tries itself with, for the same reason. -/
def IsContained (e : Engine σ) (latex : String) (display : Bool) : Prop :=
  IsAnswered (c.convert latex display e).result ∨
    e.isReady = false ∧ ∃ l reason, (c.probed e).result = .error (.rejected l reason)
      ∧ (c.convert latex display e).result = .error (.notStarted reason)

/-! ## Conversion -/

variable (e : Engine σ) (latex : String) (display : Bool)

/-- What the steps come to: an answer that escapes if there is one, a formula or a rejection
    otherwise. -/
theorem convertNow_result :
    (∀ x, c.AnswerEscapes e latex x →
        (c.convertNow latex display e).result = .error (.escaped x)) ∧
      ((∀ x, ¬ c.AnswerEscapes e latex x) → IsAnswered (c.convertNow latex display e).result) := by
  rw [(c.convertNow_settles e latex display).1]
  exact ⟨fun _ h => settle_of_escapes h, fun h => (decides_settle h).isAnswered⟩

/-! ## Start -/

variable {e}

/-- An engine that has started converts at once. -/
theorem convert_of_isReady (he : e.isReady = true) :
    c.convert latex display e = c.convertNow latex display e := by
  have hready : c.ready e = ⟨.ok (), [], e⟩ := by
    simp [ready, readyFor, bind, Work.andThen, Work.state, he]
  rw [convert, Work.bind_ok hready, List.nil_append]

/-- What a fault of the formula that an engine tries itself with is for one who waits for
    the engine. -/
def ofProbe : Fault → Fault
  | .rejected _ reason => .notStarted reason
  | other => other

variable {c} in
theorem ready_of_probed (he : e.isReady = false) {m : MathObject} {said : List Log.Notice}
    {e' : Engine σ} (hprobe : c.probed e = ⟨.ok m, said, e'⟩) :
    c.ready e = ⟨.ok (), said ++ [.engineStarted], { e' with isReady := true }⟩ := by
  rcases e with ⟨isReady, entities, steps⟩
  obtain rfl : isReady = false := he
  have hrun : c.convertNow probe false ⟨false, namedCharacters, steps⟩ = ⟨.ok m, said, e'⟩ :=
    hprobe
  simp [ready, readyFor, startFor, start, bind, Work.andThen, Work.state, Work.put, Work.tell,
    Work.mapFault_ok _ hrun, Except.bind]

variable {c} in
theorem ready_of_not_probed (he : e.isReady = false) {fault : Fault} {said : List Log.Notice}
    {e' : Engine σ} (hprobe : c.probed e = ⟨.error fault, said, e'⟩) :
    c.ready e = ⟨.error (ofProbe fault), said, e'⟩ := by
  rcases e with ⟨isReady, entities, steps⟩
  obtain rfl : isReady = false := he
  have hrun : c.convertNow probe false ⟨false, namedCharacters, steps⟩ = ⟨.error fault, said, e'⟩ :=
    hprobe
  cases fault <;>
    simp [ready, readyFor, startFor, start, bind, Work.andThen, Work.state, Work.put,
      Work.mapFault_error _ hrun, Except.bind, ofProbe]

/-- An engine that starts serves the formula then. -/
theorem convert_of_probed (he : e.isReady = false) {m : MathObject}
    (hm : (c.probed e).result = .ok m) :
    (c.convert latex display e).result
      = (c.convertNow latex display { (c.probed e).state with isReady := true }).result := by
  rcases hprobe : c.probed e with ⟨result, said, e'⟩
  rw [hprobe] at hm
  obtain rfl : result = .ok m := hm
  rw [convert, Work.bind_ok (ready_of_probed he hprobe)]

/-- An engine that does not start converts nothing, and says why it does not start. -/
theorem convert_of_not_probed (he : e.isReady = false) {fault : Fault}
    (hfault : (c.probed e).result = .error fault) :
    (c.convert latex display e).result = .error (ofProbe fault) := by
  rcases hprobe : c.probed e with ⟨result, said, e'⟩
  rw [hprobe] at hfault
  obtain rfl : result = .error fault := hfault
  rw [convert, Work.bind_error (ready_of_not_probed he hprobe)]

/-! ## Containment -/

variable (e)

/-- A formula comes to what escapes if an answer does, and is contained otherwise. -/
theorem convert_result :
    (∀ x, c.Escapes e latex x → (c.convert latex display e).result = .error (.escaped x)) ∧
      ((∀ x, ¬ c.Escapes e latex x) → c.IsContained e latex display) := by
  unfold Escapes
  cases he : e.isReady with
  | true =>
    obtain ⟨hescapes, hanswers⟩ := c.convertNow_result e latex display
    rw [← c.convert_of_isReady latex display he] at hescapes hanswers
    exact ⟨hescapes, fun h => .inl (hanswers h)⟩
  | false =>
    obtain ⟨hescapes, hanswers⟩ :
        (∀ x, c.AnswerEscapes (trying e) probe x → (c.probed e).result = .error (.escaped x)) ∧
          ((∀ x, ¬ c.AnswerEscapes (trying e) probe x) → IsAnswered (c.probed e).result) :=
      c.convertNow_result (trying e) probe false
    simp only [Bool.false_eq_true, if_false]
    rcases hprobe : (c.probed e).result with fault | m
    -- The engine does not start; whether an answer to its own formula escapes says how.
    · have hconvert := c.convert_of_not_probed latex display he hprobe
      rw [hprobe] at hescapes hanswers
      refine ⟨fun x hx => ?_, fun hnone => ?_⟩
      · rcases hx with hx | ⟨hok, -⟩
        · cases hescapes x hx
          exact hconvert
        · exact absurd hok Bool.false_ne_true
      · obtain ⟨l, reason, hreason⟩ :=
          (hanswers fun x hx => hnone x (.inl hx)).resolve_left fun ⟨_, hm⟩ => (nomatch hm)
        cases hreason
        exact .inr ⟨he, l, reason, hprobe, hconvert⟩
    -- The engine starts, and what is answered to the formula is what it comes to.
    · obtain ⟨hescapes', hanswers'⟩ := c.convertNow_result
        { (c.probed e).state with isReady := true } latex display
      rw [← c.convert_of_probed latex display he hprobe] at hescapes' hanswers'
      refine ⟨fun x hx => ?_, fun hnone => .inl (hanswers' fun x hx => hnone x (.inr ⟨rfl, hx⟩))⟩
      rcases hx with hx | ⟨-, hx⟩
      · exact absurd (hprobe.symm.trans (hescapes x hx)) (nomatch ·)
      · exact hescapes' x hx

theorem isContained_iff_not_escapes :
    c.IsContained e latex display ↔ ∀ x, ¬ c.Escapes e latex x := by
  obtain ⟨hescapes, hnone⟩ := c.convert_result e latex display
  refine ⟨fun h x hx => ?_, hnone⟩
  have hresult := hescapes x hx
  rcases h with (⟨m, hm⟩ | ⟨l, reason, hr⟩) | ⟨-, l, reason, -, hr⟩
  · exact nomatch hresult.symm.trans hm
  · exact nomatch hresult.symm.trans hr
  · exact nomatch hresult.symm.trans hr

variable {e}

theorem isAnswered_convert_iff (he : e.isReady = true) :
    IsAnswered (c.convert latex display e).result ↔ ∀ x, ¬ c.AnswerEscapes e latex x := by
  have h := c.isContained_iff_not_escapes e latex display
  simp only [IsContained, Escapes, he, if_true] at h
  exact ⟨fun hanswered => h.1 (.inl hanswered),
    fun hnone => (h.2 hnone).resolve_right fun hcold => nomatch hcold.1⟩

theorem isReady_after (he : e.isReady = true) (calls : List Call) :
    (c.bridge.after e calls).isReady = true := by
  induction calls generalizing e with
  | nil => exact he
  | cons call rest ih =>
    refine ih (e := (c.convert call.1 call.2 e).state) ?_
    rw [c.convert_of_isReady call.1 call.2 he, (c.convertNow_settles e call.1 call.2).2.1, he]

/-- A formula is contained unless an answer to it, or to the formula that the engine tries itself
    with, escapes; that is then all that comes of it. With an engine that has started, inline
    source has runs unless an answer to one of its formulas escapes, after the formulas before
    it. -/
theorem isContained_iff (c : Converters σ) (e : Engine σ) :
    (∀ latex display, (c.IsContained e latex display ↔ ∀ x, ¬ c.Escapes e latex x) ∧
      ∀ x, c.Escapes e latex x → (c.convert latex display e).result = .error (.escaped x)) ∧
    (e.isReady = true → ∀ (config : Style.Config) (text : String),
      (∃ runs, (Inline.format c.bridge config text e).result = .ok runs) ↔
        ∀ k call, (Inline.Segment.calls (Inline.splitRuns text.toList))[k]? = some call →
          ∀ x, ¬ c.AnswerEscapes (c.bridge.after e
            ((Inline.Segment.calls (Inline.splitRuns text.toList)).take k)) call.1 x) := by
  refine ⟨fun latex display => ⟨c.isContained_iff_not_escapes e latex display,
    (c.convert_result e latex display).1⟩, fun he config text => ?_⟩
  rw [Inline.exists_format_iff]
  refine forall_congr' fun k => forall_congr' fun call => imp_congr_right fun _ => ?_
  exact c.isAnswered_convert_iff call.1 call.2 (c.isReady_after he _)

/-- Steps of which the first fails at some formulas and gives a text that is no markup for all
    others. -/
def failing : Converters Unit where
  toMarkup latex _ := (if latex = "a" then .failed "no" else .text "<", ())
  toOffice _ _ _ := (.nothing, ())

theorem not_answerEscapes_failing (e : Engine Unit) (latex : String) (x : Escape) :
    ¬ failing.AnswerEscapes e latex x := by
  intro h
  cases h with
  | first fit escape =>
    simp only [firstAnswer, failing] at escape
    split at escape <;> cases escape
  | second fit answers usable escape => cases escape

/-- Such steps let no engine start, but with one that has started there are runs. -/
theorem isContained_iff_failing :
    failing.IsContained ⟨false, [], ()⟩ "a" false ∧
      ∃ runs, (Inline.format failing.bridge .standard "$a$ or $$b$$" ⟨true, [], ()⟩).result
        = .ok runs := by
  refine ⟨((failing.isContained_iff ⟨false, [], ()⟩).1 "a" false).1.2 ?_, ?_⟩
  · rintro x (h | ⟨-, h⟩)
    · exact not_answerEscapes_failing _ _ x h
    · exact not_answerEscapes_failing _ _ x h
  · exact ((failing.isContained_iff ⟨true, [], ()⟩).2 rfl .standard "$a$ or $$b$$").2
      fun _ _ _ => not_answerEscapes_failing _ _

/-- Steps of which the first answers in some way to one formula, and both convert all others. -/
def answeringAtY (answer : Answer) : Converters Unit where
  toMarkup latex _ := (if latex = "y" then answer else .text "<math><mi>x</mi></math>", ())
  toOffice _ _ _ := (.text "<m:oMath><m:r><m:t>x</m:t></m:r></m:oMath>", ())

theorem isFit_y : IsFit (trim "y".toList) :=
  ⟨by decide +kernel, braceFault?_eq_none_iff.1 (by decide +kernel)⟩

theorem answerEscapes_answeringAtY {answer : Answer} {x : Escape}
    (h : answer.firstEscape? = some x) (e : Engine Unit) :
    (answeringAtY answer).AnswerEscapes e "y" x := by
  have hprepared : prepared (trim "y".toList) = "y" := by decide +kernel
  refine .first isFit_y ?_
  rw [firstAnswer, hprepared]
  exact h

/-- Steps of which the first says nothing to one formula. -/
def silentAtY : Converters Unit := answeringAtY .nothing

/-- The engine starts over these steps; the formula is neither converted nor rejected then, and
    source with the formula has no runs. -/
theorem not_isContained_silentAtY :
    (silentAtY.ready ⟨false, [], ()⟩).state.isReady = true ∧
      ¬ IsAnswered (silentAtY.convert "y" false (silentAtY.ready ⟨false, [], ()⟩).state).result ∧
      ¬ ∃ runs, (Inline.format silentAtY.bridge .standard "$y$"
        (silentAtY.ready ⟨false, [], ()⟩).state).result = .ok runs := by
  have he : (silentAtY.ready ⟨false, [], ()⟩).state.isReady = true := by decide +kernel
  refine ⟨he, ?_⟩
  generalize (silentAtY.ready ⟨false, [], ()⟩).state = e at he
  have hnot : ¬ IsAnswered (silentAtY.convert "y" false e).result := fun h =>
    (silentAtY.isAnswered_convert_iff "y" false he).1 h .noMarkup (answerEscapes_answeringAtY rfl e)
  refine ⟨hnot, fun hruns => hnot ?_⟩
  exact (Inline.exists_format_iff _ _).1 hruns 0 ("y", false) (by decide +kernel)

end Converters

end Manuscript.Formula
