import Manuscript.Proofs.Formula.Containment

/-!
# The way of a formula

What an engine that has started makes of a formula, and what it asks its steps for that. The
questions are always the right ones: none about a formula that is not fit, one to the first
step otherwise, and one to the second only about markup that can be used (`IsAskedFor`). What
comes of the answers is what the stages decide, unless an answer escapes.

* `convertNow_asksFor`: what any two steps are asked;
* `convert_decides`: when the stages decide what comes of their answers, and what does if they
  do not.
-/

namespace Manuscript.Formula

open Manuscript.Document Manuscript.Text Manuscript.Work

namespace Converters

/-- The questions that should be asked about a formula with some source, by the answers to them:
    none if it is not fit; otherwise the first step is asked about it once, and only if the answer
    is markup that can be used the second one about that. -/
structure IsAskedFor (source : List Char) (first : Answer) (second : String → Answer)
    (entities : Entities) (asked : List Question) : Prop where
  unfit : ¬ IsFit source → asked = []
  unusable : IsFit source → (∀ markup, first = .text markup → ¬ IsUsable markup) →
    asked = [.markup (prepared source) first]
  usable : ∀ markup, IsFit source → first = .text markup → IsUsable markup →
    asked = [.markup (prepared source) first, .office markup entities (second markup)]

variable {σ : Type} (c : Converters σ)

/-- A conversion asks what it should, over any steps that are recorded. -/
theorem convertNow_asksFor (e : Engine σ) (latex : String) (display : Bool) :
    IsAskedFor (trim latex.toList) (c.firstAnswer e latex) (c.secondAnswer e latex) e.entities
      (c.recorded.convertNow latex display e.recorded).state.asked := by
  by_cases hfit : IsFit (trim latex.toList)
  · rcases hmarkup : markupIn latex (c.firstAnswer e latex) with fault | markup
    · obtain ⟨said, hrun⟩ :=
        convertNow_of_first (c := c.recorded) (e := e.recorded) display hfit hmarkup
      rw [hrun]
      refine ⟨fun hnot => absurd hfit hnot, fun _ _ => rfl, fun markup _ htext husable => ?_⟩
      exact nomatch hmarkup.symm.trans (markupIn_eq_ok_iff_isUsable.2 ⟨htext, husable⟩)
    · obtain ⟨said, hrun⟩ :=
        convertNow_of_second (c := c.recorded) (e := e.recorded) display hfit hmarkup
      obtain ⟨htext, husable⟩ := markupIn_eq_ok_iff_isUsable.1 hmarkup
      rw [hrun]
      refine ⟨fun hnot => absurd hfit hnot, fun _ hnone => absurd husable (hnone markup htext),
        fun markup' _ htext' _ => ?_⟩
      cases htext.symm.trans htext'
      rfl
  · obtain ⟨l, reason, hsource⟩ := sourceOf_of_not_isFit hfit
    rw [convertNow_of_error display hsource]
    exact ⟨fun _ => rfl, fun h => absurd h hfit, fun _ h => absurd h hfit⟩

/-- The stages decide what comes of the answers if none escapes, and only then. -/
theorem decides_settle_iff {latex : String} {display : Bool} {first : Answer}
    {second : String → Answer} :
    Decides (trim latex.toList) first second latex display (settle latex display first second) ↔
      ∀ x, ¬ Formula.Escapes (trim latex.toList) first second x := by
  refine ⟨fun h x hx => ?_, decides_settle⟩
  rcases h.isAnswered with ⟨m, hm⟩ | ⟨l, reason, hr⟩
  · exact nomatch hm.symm.trans (settle_of_escapes hx)
  · exact nomatch hr.symm.trans (settle_of_escapes hx)

/-- An engine that has started asks its steps about a formula what it should. The stages decide
    what comes of the answers unless one of them escapes, which is then all that comes of the
    formula: the first step has given nothing or a text that cannot be encoded, or a step has
    failed in a way that its guard lets pass. Nothing else about the engine changes than the state
    of the steps, and that they are recorded makes no difference. -/
theorem convert_decides (entities : Entities) (s : σ) (latex : String) (display : Bool) :
    let e : Engine σ := ⟨true, entities, s⟩
    let o := c.recorded.convert latex display e.recorded
    IsAskedFor (trim latex.toList) (c.firstAnswer e latex) (c.secondAnswer e latex) entities
        o.state.asked
      ∧ (Decides (trim latex.toList) (c.firstAnswer e latex) (c.secondAnswer e latex) latex
          display o.result ↔ ∀ x, ¬ c.AnswerEscapes e latex x)
      ∧ (∀ x, c.AnswerEscapes e latex x → o.result = .error (.escaped x))
      ∧ o.state.isReady = true ∧ o.state.entities = entities
      ∧ (c.convert latex display e).result = o.result
      ∧ (c.convert latex display e).notices = o.notices
      ∧ (c.convert latex display e).state = o.state.unrecorded := by
  intro e o
  have ho : o = c.recorded.convertNow latex display e.recorded :=
    c.recorded.convert_of_isReady latex display rfl
  obtain ⟨hresult, hready, hentities⟩ := c.recorded.convertNow_settles e.recorded latex display
  obtain ⟨hsame, hsaid, hstate⟩ := c.convertNow_follows latex display e.recorded e rfl
  rw [← ho] at hresult hready hentities
  rw [← c.convert_of_isReady latex display rfl, ← ho] at hsame hsaid hstate
  refine ⟨ho ▸ c.convertNow_asksFor e latex display, ?_, fun x hx => ?_, hready, hentities,
    hsame.symm, hsaid.symm, hstate.symm⟩
  · rw [hresult]
    exact decides_settle_iff
  · rw [hresult]
    exact settle_of_escapes hx

/-- The engine starts over steps of which the first gives to one formula a text that cannot be
    encoded. The formula is fit, and the answer is no markup that could be used; yet the formula
    is not rejected then. -/
theorem not_decides_unencodableAtY :
    let c := answeringAtY .unencodable
    let e := (c.ready ⟨false, [], ()⟩).state
    e.isReady = true ∧ IsFit (trim "y".toList) ∧ c.firstAnswer e "y" = .unencodable
      ∧ ¬ IsRejection (c.convert "y" false e).result
      ∧ ¬ Decides (trim "y".toList) (c.firstAnswer e "y") (c.secondAnswer e "y") "y" false
          (c.convert "y" false e).result := by
  intro c e
  have he : e.isReady = true := by decide +kernel
  have hfirst : c.firstAnswer e "y" = .unencodable := by decide +kernel
  have hresult : (c.convert "y" false e).result = .error (.escaped .unencodable) := by
    rw [c.convert_of_isReady "y" false he]
    exact (c.convertNow_result e "y" false).1 _ (answerEscapes_answeringAtY rfl e)
  have hnot : ¬ IsRejection (c.convert "y" false e).result := by
    rintro ⟨l, reason, h⟩
    exact nomatch h.symm.trans hresult
  refine ⟨he, isFit_y, hfirst, hnot, fun h => hnot (h.unusable isFit_y fun markup htext => ?_)⟩
  exact nomatch hfirst.symm.trans htext

end Converters

end Manuscript.Formula
