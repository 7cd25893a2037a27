import Manuscript.Proofs.Formula.Braces
import Manuscript.Proofs.Formula.Questions
import Manuscript.Proofs.Success

/-!
# The stages of a conversion

What comes of a formula by the answers of the two steps to it. Each stage has a condition
that is said without the code that checks it: the formula is not blank and its braces pair
(`IsFit`), the first step gives markup without commands left over (`IsUsable`), and the second
one markup with a formula in it (`IsFormulaIn`). A formula that fails at one stage is to be
rejected, and goes no further (`Decides`).

The steps are not to be trusted: they may answer with what no check reckons with. That is
nothing or a text that cannot be encoded from the first step, which is read between the
guards of the two steps, and from either step a failure that its guard lets pass (`Escapes`).
Such an answer is all that comes of the formula.

* `settle_of_escapes`, `decides_settle`: what comes of a formula if an answer escapes, and
  if none does;
* `convertNow_of_error`, `convertNow_of_first`, `convertNow_of_second`: a conversion that ends
  at each stage;
* `convertNow_settles`: a conversion gives what the answers come to.
-/

namespace Manuscript.Formula

open Manuscript.Document Manuscript.Success Manuscript.Text Manuscript.Work

/-! ## Conditions -/

/-- The source of a formula is not empty, and its braces pair. -/
def IsFit (source : List Char) : Prop := source ≠ [] ∧ IsBalanced source

/-- A text starts with a command: a backslash and a letter. -/
def StartsWithCommand (cs : List Char) : Prop :=
  ∃ letter rest, cs = '\x5c' :: letter :: rest ∧ letter.isAlpha = true

/-- A text is mathematical markup, and no element in it has a command for its text. -/
def IsUsable (markup : String) : Prop :=
  ∃ root, Xml.document? markup = .ok root
    ∧ ∀ t ∈ root.elements, ¬ StartsWithCommand (trim t.leadingText.toList)

/-- The formula among some markup: the first that is one, or a new one around all elements,
    each with the text that follows it. -/
def IsFormulaOf (content : List Xml.Tree) (t : Xml.Tree) : Prop :=
  (∃ before after, content = before ++ t :: after ∧ t.name? = some formulaName
      ∧ ∀ other ∈ before, other.name? ≠ some formulaName) ∨
    (∀ other ∈ content, other.name? ≠ some formulaName)
      ∧ t = .element formulaName [] (content.dropWhile Xml.Tree.isText)

/-- A text is markup of the package, with a formula in it that has something in it. -/
def IsFormulaIn (text : String) (t : Xml.Tree) : Prop :=
  ∃ content, Xml.fragment? outerName officeScope text = .ok content ∧ IsFormulaOf content t
    ∧ ∃ child ∈ t.content, child.isText = false

/-- The text in an answer of the second step, if it can be encoded; nothing is read by its
    name. -/
def Answer.written? : Answer → Option String
  | text s => some s
  | nothing => some "None"
  | unencodable | failed _ | unguarded => none

/-- What of an answer of the first step no check reckons with. -/
def Answer.firstEscape? : Answer → Option Escape
  | nothing => some .noMarkup
  | unencodable => some .unencodable
  | unguarded => some .unguarded
  | text _ | failed _ => none

/-- What of an answer of the second step no check reckons with. -/
def Answer.secondEscape? : Answer → Option Escape
  | unguarded => some .unguarded
  | text _ | unencodable | nothing | failed _ => none

/-- A formula is rejected. -/
def IsRejection (r : Except Fault MathObject) : Prop :=
  ∃ latex reason, r = .error (.rejected latex reason)

section Conditions

variable {source : List Char} {first : Answer} {second : String → Answer} {latex : String}
  {display : Bool}

/-- An answer to a formula with some source gets past the checks: that of the first step, if it
    is asked, or that of the second step to markup that can be used. -/
inductive Escapes (source : List Char) (first : Answer) (second : String → Answer) (x : Escape) :
    Prop
  /-- The first step is asked, and its answer gets past the checks. -/
  | first (fit : IsFit source) (escape : first.firstEscape? = some x)
  /-- The second step is asked, and its answer does. -/
  | second {markup : String} (fit : IsFit source) (answers : first = .text markup)
      (usable : IsUsable markup) (escape : (second markup).secondEscape? = some x)

/-- What should come of a formula with some source by the answers of the steps: a rejection at
    the stage at which it fails, and the formula converted if it goes through all of them. -/
structure Decides (source : List Char) (first : Answer) (second : String → Answer)
    (latex : String) (display : Bool) (r : Except Fault MathObject) : Prop where
  unfit : ¬ IsFit source → IsRejection r
  unusable : IsFit source → (∀ markup, first = .text markup → ¬ IsUsable markup) → IsRejection r
  refused : ∀ markup, IsFit source → first = .text markup → IsUsable markup →
    (∀ text t, (second markup).written? = some text → ¬ IsFormulaIn text t) → IsRejection r
  converted : ∀ markup text t, IsFit source → first = .text markup → IsUsable markup →
    (second markup).written? = some text → IsFormulaIn text t →
      r = .ok ⟨t, latex, display⟩ ∧ t.name? = some formulaName

end Conditions

/-! ## Checks -/

theorem command?_eq_none_iff {cs : List Char} : command? cs = none ↔ ¬ StartsWithCommand cs := by
  unfold command? StartsWithCommand
  split
  · next rest =>
    cases rest with
    | nil => simp
    | cons letter rest => cases h : letter.isAlpha <;> simp [h]
  · next hslash =>
    refine ⟨fun _ => ?_, fun _ => rfl⟩
    rintro ⟨letter, rest, rfl, -⟩
    exact hslash _ rfl

theorem leftover?_eq_none_iff {root : Xml.Tree} :
    leftover? root = none ↔
      ∀ t ∈ root.elements, ¬ StartsWithCommand (trim t.leadingText.toList) := by
  rw [leftover?, List.findSome?_eq_none_iff]
  exact forall₂_congr fun _ _ => command?_eq_none_iff

theorem isFormulaOf_iff {content : List Xml.Tree} {t : Xml.Tree} :
    IsFormulaOf content t ↔ t = formulaElement content := by
  have hfirst : (∃ before after, content = before ++ t :: after ∧ t.name? = some formulaName
      ∧ ∀ other ∈ before, other.name? ≠ some formulaName) ↔
        content.find? (fun t => t.name? == some formulaName) = some t := by
    rw [List.find?_eq_some_iff_append]
    simp only [beq_iff_eq, Bool.not_eq_true', beq_eq_false_iff_ne]
    exact ⟨fun ⟨before, after, heq, hname, hothers⟩ => ⟨hname, before, after, heq, hothers⟩,
      fun ⟨hname, before, after, heq, hothers⟩ => ⟨before, after, heq, hname, hothers⟩⟩
  have hnone : (∀ other ∈ content, other.name? ≠ some formulaName) ↔
      content.find? (fun t => t.name? == some formulaName) = none := by
    simp only [List.find?_eq_none, beq_iff_eq, ne_eq]
  rw [IsFormulaOf, hfirst, hnone, formulaElement]
  cases content.find? fun t => t.name? == some formulaName <;> simp [eq_comm]

theorem IsFormulaOf.name? {content : List Xml.Tree} {t : Xml.Tree} (h : IsFormulaOf content t) :
    t.name? = some formulaName := by
  rcases h with ⟨_, _, _, hname, _⟩ | ⟨_, rfl⟩
  · exact hname
  · rfl

theorem IsFormulaIn.name? {text : String} {t : Xml.Tree} (h : IsFormulaIn text t) :
    t.name? = some formulaName := by
  obtain ⟨_, _, hformula, _⟩ := h
  exact hformula.name?

theorem hasContent_iff {t : Xml.Tree} :
    hasContent t = true ↔ ∃ child ∈ t.content, child.isText = false := by
  simp [hasContent]

theorem formulaIn_eq_ok_iff {text : String} {t : Xml.Tree} :
    formulaIn text = .ok t ↔ IsFormulaIn text t := by
  unfold formulaIn IsFormulaIn
  cases Xml.fragment? outerName officeScope text with
  | error fault => simp
  | ok content =>
    simp only [Except.ok.injEq, exists_eq_left', isFormulaOf_iff, ← hasContent_iff]
    constructor
    · intro h
      split at h
      · next hcontent =>
        cases h
        exact ⟨rfl, hcontent⟩
      · cases h
    · rintro ⟨rfl, hcontent⟩
      rw [if_pos hcontent]

namespace Converters

variable {latex : String} {answer : Answer} {x : Escape}

theorem sourceOf_of_isFit (h : IsFit (trim latex.toList)) :
    sourceOf latex = .ok (trim latex.toList) := by
  have hempty : (trim latex.toList).isEmpty = false := by simpa using h.1
  simp only [sourceOf, hempty, braceFault?_eq_none_iff.2 h.2, Bool.false_eq_true, if_false]

theorem sourceOf_of_not_isFit (h : ¬ IsFit (trim latex.toList)) :
    ∃ l reason, sourceOf latex = .error (.rejected l reason) := by
  unfold sourceOf
  dsimp only
  split
  · exact ⟨_, _, rfl⟩
  · next hempty =>
    cases hfault : braceFault? (trim latex.toList) with
    | some fault => exact ⟨_, _, rfl⟩
    | none =>
      exact absurd ⟨by simpa using hempty, braceFault?_eq_none_iff.1 hfault⟩ h

/-- An answer of the first step that can be used. -/
theorem markupIn_eq_ok_iff_isUsable {markup : String} :
    markupIn latex answer = .ok markup ↔ answer = .text markup ∧ IsUsable markup := by
  rw [markupIn_eq_ok_iff, IsUsable]
  simp only [leftover?_eq_none_iff]

theorem markupIn_of_escape (h : answer.firstEscape? = some x) :
    markupIn latex answer = .error (.escaped x) := by
  cases answer <;> cases h <;> rfl

/-- Any other is a reason to reject the formula. -/
theorem markupIn_of_not_isUsable (hescape : answer.firstEscape? = none)
    (h : ∀ markup, answer = .text markup → ¬ IsUsable markup) :
    ∃ reason, markupIn latex answer = .error (.rejected latex reason) := by
  cases answer with
  | failed words => exact ⟨_, rfl⟩
  | text markup =>
    simp only [markupIn]
    cases hroot : Xml.document? markup with
    | error fault => exact ⟨_, rfl⟩
    | ok root =>
      cases hleft : leftover? root with
      | some command => exact ⟨.unsupported command, by simp only [hleft]⟩
      | none => exact absurd ⟨root, hroot, leftover?_eq_none_iff.1 hleft⟩ (h markup rfl)
  | nothing | unencodable | unguarded => cases hescape

/-- An answer of the second step with a formula in it. -/
theorem elementOf_eq_ok_iff {t : Xml.Tree} :
    elementOf latex answer = .ok t ↔
      ∃ text, answer.written? = some text ∧ IsFormulaIn text t := by
  cases answer <;>
    simp [elementOf, Answer.written?, mapError_eq_ok_iff, formulaIn_eq_ok_iff]

theorem elementOf_of_escape (h : answer.secondEscape? = some x) :
    elementOf latex answer = .error (.escaped x) := by
  cases answer <;> cases h
  rfl

/-- Any other is a reason to reject the formula. -/
theorem elementOf_of_not_isFormulaIn (hescape : answer.secondEscape? = none)
    (h : ∀ text t, answer.written? = some text → ¬ IsFormulaIn text t) :
    ∃ reason, elementOf latex answer = .error (.rejected latex reason) := by
  have hread (text : String) (hnone : ∀ t, ¬ IsFormulaIn text t) :
      ∃ reason, (formulaIn text).mapError (Fault.rejected latex)
        = .error (.rejected latex reason) := by
    cases hformula : formulaIn text with
    | error reason => exact ⟨reason, rfl⟩
    | ok t => exact absurd (formulaIn_eq_ok_iff.1 hformula) (hnone t)
  cases answer with
  | failed words => exact ⟨_, rfl⟩
  | unencodable => exact ⟨_, rfl⟩
  | nothing => exact hread "None" fun t => h "None" t rfl
  | text text => exact hread text fun t => h text t rfl
  | unguarded => cases hescape

/-! ## Outcomes -/

/-- What comes of a formula by the answers of the steps to it. -/
def settle (latex : String) (display : Bool) (first : Answer) (second : String → Answer) :
    Except Fault MathObject := do
  let _ ← sourceOf latex
  let markup ← markupIn latex first
  let t ← elementOf latex (second markup)
  return ⟨t, latex, display⟩

section Settle

variable {display : Bool} {first : Answer} {second : String → Answer}

theorem settle_of_not_isFit (h : ¬ IsFit (trim latex.toList)) :
    IsRejection (settle latex display first second) := by
  obtain ⟨l, reason, hsource⟩ := sourceOf_of_not_isFit h
  exact ⟨l, reason, by rw [settle, hsource]; rfl⟩

theorem settle_of_first (h : IsFit (trim latex.toList)) {fault : Fault}
    (hfirst : markupIn latex first = .error fault) :
    settle latex display first second = .error fault := by
  rw [settle, sourceOf_of_isFit h, hfirst]
  rfl

theorem settle_of_second (h : IsFit (trim latex.toList)) {markup : String}
    (hfirst : markupIn latex first = .ok markup) :
    settle latex display first second
      = (elementOf latex (second markup)).map fun t => ⟨t, latex, display⟩ := by
  rw [settle, sourceOf_of_isFit h, hfirst]
  cases hsecond : elementOf latex (second markup) <;> simp [bind, Except.bind, hsecond] <;> rfl

/-- An answer that gets past the checks is all that comes of a formula. -/
theorem settle_of_escapes (h : Escapes (trim latex.toList) first second x) :
    settle latex display first second = .error (.escaped x) := by
  cases h with
  | first fit escape => exact settle_of_first fit (markupIn_of_escape escape)
  | second fit answers usable escape =>
    rw [settle_of_second fit (markupIn_eq_ok_iff_isUsable.2 ⟨answers, usable⟩),
      elementOf_of_escape escape]
    rfl

/-- Otherwise the stages decide. -/
theorem decides_settle (h : ∀ x, ¬ Escapes (trim latex.toList) first second x) :
    Decides (trim latex.toList) first second latex display
      (settle latex display first second) where
  unfit := settle_of_not_isFit
  unusable hfit hnone := by
    have hescape : first.firstEscape? = none :=
      Option.eq_none_iff_forall_ne_some.2 fun x hx => h x (.first hfit hx)
    obtain ⟨reason, hmarkup⟩ := markupIn_of_not_isUsable hescape hnone
    exact ⟨latex, reason, settle_of_first hfit hmarkup⟩
  refused markup hfit htext husable hnone := by
    have hescape : (second markup).secondEscape? = none :=
      Option.eq_none_iff_forall_ne_some.2 fun x hx => h x (.second hfit htext husable hx)
    obtain ⟨reason, helement⟩ := elementOf_of_not_isFormulaIn hescape hnone
    refine ⟨latex, reason, ?_⟩
    rw [settle_of_second hfit (markupIn_eq_ok_iff_isUsable.2 ⟨htext, husable⟩), helement]
    rfl
  converted markup text t hfit htext husable hwritten hformula := by
    rw [settle_of_second hfit (markupIn_eq_ok_iff_isUsable.2 ⟨htext, husable⟩),
      elementOf_eq_ok_iff.2 ⟨text, hwritten, hformula⟩]
    exact ⟨rfl, hformula.name?⟩

end Settle

/-! ## Conversions -/

section Runs

variable {σ : Type} (c : Converters σ) (e : Engine σ)

/-- What the first step answers to a formula. -/
def firstAnswer (latex : String) : Answer :=
  (c.toMarkup (prepared (trim latex.toList)) e.steps).1

/-- What the second step answers to markup, after the first step has answered to a formula. -/
def secondAnswer (latex markup : String) : Answer :=
  (c.toOffice markup e.entities (c.toMarkup (prepared (trim latex.toList)) e.steps).2).1

variable (display : Bool) {c e}

/-- A formula without a source is not asked about. -/
theorem convertNow_of_error {fault : Fault} (h : sourceOf latex = .error fault) :
    c.convertNow latex display e = ⟨.error fault, [], e⟩ :=
  c.convertNow_eq latex display ▸ bind_error (c.markupFor_of_fault h e)

variable (h : IsFit (trim latex.toList))

include h

/-- A formula that the first step does not get past is asked about once. -/
theorem convertNow_of_first {fault : Fault}
    (hmarkup : markupIn latex (c.firstAnswer e latex) = .error fault) :
    ∃ said, c.convertNow latex display e = ⟨.error fault, said,
      { e with steps := (c.toMarkup (prepared (trim latex.toList)) e.steps).2 }⟩ := by
  have hrun := c.markupFor_of_source (sourceOf_of_isFit h) e
  rw [← firstAnswer, hmarkup] at hrun
  exact ⟨_, c.convertNow_eq latex display ▸ bind_error hrun⟩

/-- With markup that can be used the second step is asked as well. -/
theorem convertNow_of_second {markup : String}
    (hmarkup : markupIn latex (c.firstAnswer e latex) = .ok markup) :
    ∃ said, c.convertNow latex display e
      = ⟨(elementOf latex (c.secondAnswer e latex markup)).map fun t => ⟨t, latex, display⟩, said,
          { e with steps := (c.toOffice markup e.entities
              (c.toMarkup (prepared (trim latex.toList)) e.steps).2).2 }⟩ := by
  have hrun := c.markupFor_of_source (sourceOf_of_isFit h) e
  rw [← firstAnswer, hmarkup] at hrun
  rw [c.convertNow_eq, bind_ok hrun, finish_eq]
  exact ⟨_, rfl⟩

end Runs

variable {σ : Type} (c : Converters σ) (e : Engine σ) (latex : String) (display : Bool)

/-- A conversion gives what the answers of the steps come to, and leaves the engine as it is but
    for the state of the steps. -/
theorem convertNow_settles :
    (c.convertNow latex display e).result
        = settle latex display (c.firstAnswer e latex) (c.secondAnswer e latex)
      ∧ (c.convertNow latex display e).state.isReady = e.isReady
      ∧ (c.convertNow latex display e).state.entities = e.entities := by
  by_cases hfit : IsFit (trim latex.toList)
  · rcases hmarkup : markupIn latex (c.firstAnswer e latex) with fault | markup
    · obtain ⟨said, hrun⟩ := convertNow_of_first display hfit hmarkup
      rw [hrun, settle_of_first hfit hmarkup]
      exact ⟨rfl, rfl, rfl⟩
    · obtain ⟨said, hrun⟩ := convertNow_of_second display hfit hmarkup
      rw [hrun, settle_of_second hfit hmarkup]
      exact ⟨rfl, rfl, rfl⟩
  · obtain ⟨l, reason, hsource⟩ := sourceOf_of_not_isFit hfit
    rw [convertNow_of_error display hsource, settle, hsource]
    exact ⟨rfl, rfl, rfl⟩

end Converters

end Manuscript.Formula
