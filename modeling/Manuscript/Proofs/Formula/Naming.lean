import Manuscript.Proofs.Formula.Braces
import Manuscript.Proofs.Formula.Containment
import Manuscript.Proofs.Formula.Questions

/-!
# Formulas by name

A formula goes through a conversion in three forms: as it was given, without the blanks around
it, and with its text as upright letters. What comes of it goes by the first form: the formula
that is converted does, and a rejection, whichever stage it comes from. The exception is the
check of braces, of which the rejections go by what the check has read, the second form.

* `Names`: the faults of a formula, and what each calls it;
* `convertNow_names`: a conversion has no others;
* `isNamed_iff`: when a formula is named as it was given.
-/

namespace Manuscript.Formula

open Manuscript.Document Manuscript.Success Manuscript.Text

/-! ## Names in faults -/

/-- Whether a reason is about braces that do not pair. -/
def Reason.isAboutBraces : Reason → Bool
  | unopenedBrace | unclosedBrace => true
  | _ => false

/-- The faults of a formula, by the name that they give it. -/
inductive Names (latex : String) : Fault → Prop
  /-- A rejection at any stage but the check of braces. -/
  | given {reason : Reason} : reason.isAboutBraces = false → Names latex (.rejected latex reason)
  /-- A rejection by the check of braces. -/
  | trimmed (fault : BraceFault) : ¬ IsBalanced (trim latex.toList) →
      Names latex (.rejected (trimmed latex) fault.reason)
  /-- Nothing is said about the formula. -/
  | silent (escape : Escape) : Names latex (.escaped escape)

theorem BraceFault.isAboutBraces_reason (fault : BraceFault) :
    fault.reason.isAboutBraces = true := by
  cases fault <;> rfl

/-- A text of the second step is no matter of braces. -/
theorem isAboutBraces_of_formulaIn {text : String} {reason : Reason}
    (h : formulaIn text = .error reason) : reason.isAboutBraces = false := by
  unfold formulaIn at h
  split at h
  · cases h
    rfl
  · dsimp only at h
    split at h
    · cases h
    · cases h
      rfl

namespace Converters

variable {σ : Type} (c : Converters σ) {latex : String}

/-- Braces that do not pair are a fault of the formula without the blanks around it. -/
theorem sourceOf_of_not_isBalanced (h : ¬ IsBalanced (trim latex.toList)) :
    ∃ fault : BraceFault, sourceOf latex = .error (.rejected (trimmed latex) fault.reason) := by
  cases hfault : braceFault? (trim latex.toList) with
  | none => exact absurd (braceFault?_eq_none_iff.1 hfault) h
  | some fault =>
    have hempty : (trim latex.toList).isEmpty = false := by
      rw [List.isEmpty_eq_false_iff]
      rintro hnil
      rw [hnil] at hfault
      cases hfault
    refine ⟨fault, ?_⟩
    simp only [sourceOf, hempty, hfault, Bool.false_eq_true, if_false]
    rfl

theorem sourceOf_names {fault : Fault} (h : sourceOf latex = .error fault) : Names latex fault := by
  by_cases hbalanced : IsBalanced (trim latex.toList)
  · unfold sourceOf at h
    simp only [braceFault?_eq_none_iff.2 hbalanced] at h
    split at h
    · cases h
      exact .given rfl
    · cases h
  · obtain ⟨f, hf⟩ := sourceOf_of_not_isBalanced hbalanced
    cases h.symm.trans hf
    exact .trimmed f hbalanced

theorem markupIn_names {answer : Answer} {fault : Fault} (h : markupIn latex answer = .error fault) :
    Names latex fault := by
  cases answer with
  | failed words =>
    cases h
    exact .given rfl
  | nothing | unencodable | unguarded =>
    cases h
    exact .silent _
  | text markup =>
    simp only [markupIn] at h
    split at h
    · cases h
      exact .given rfl
    · split at h
      · cases h
        exact .given rfl
      · cases h

theorem elementOf_names {answer : Answer} {fault : Fault}
    (h : elementOf latex answer = .error fault) : Names latex fault := by
  have hread (text : String) (h : (formulaIn text).mapError (Fault.rejected latex) = .error fault) :
      Names latex fault := by
    cases hformula : formulaIn text with
    | ok t =>
      rw [hformula] at h
      cases h
    | error reason =>
      rw [hformula] at h
      cases h
      exact .given (isAboutBraces_of_formulaIn hformula)
  cases answer with
  | failed words | unencodable =>
    cases h
    exact .given rfl
  | unguarded =>
    cases h
    exact .silent _
  | nothing => exact hread "None" h
  | text text => exact hread text h

section Settle

variable {display : Bool} {first : Answer} {second : String → Answer}

/-- The answers of the steps come to the formula by its name. -/
theorem latex_of_settle {m : MathObject} (h : settle latex display first second = .ok m) :
    m.latex = latex := by
  obtain ⟨_, -, h⟩ := bind_eq_ok_iff.1 h
  obtain ⟨_, -, h⟩ := bind_eq_ok_iff.1 h
  obtain ⟨t, -, h⟩ := bind_eq_ok_iff.1 h
  obtain rfl := Except.ok.inj h
  rfl

/-- Or they come to a fault that names it. -/
theorem names_of_settle {fault : Fault} (h : settle latex display first second = .error fault) :
    Names latex fault := by
  by_cases hfit : IsFit (trim latex.toList)
  · cases hmarkup : markupIn latex first with
    | error fault =>
      rw [settle_of_first hfit hmarkup] at h
      cases h
      exact markupIn_names hmarkup
    | ok markup =>
      rw [settle_of_second hfit hmarkup] at h
      cases helement : elementOf latex (second markup) with
      | error fault =>
        rw [helement] at h
        cases h
        exact elementOf_names helement
      | ok t =>
        rw [helement] at h
        cases h
  · obtain ⟨l, reason, hsource⟩ := sourceOf_of_not_isFit hfit
    rw [settle, hsource] at h
    cases h
    exact sourceOf_names hsource

end Settle

/-- So does a conversion. -/
theorem convertNow_names (latex : String) (display : Bool) (e : Engine σ) :
    (∀ m, (c.convertNow latex display e).result = .ok m → m.latex = latex) ∧
      ∀ fault, (c.convertNow latex display e).result = .error fault → Names latex fault := by
  rw [(c.convertNow_settles e latex display).1]
  exact ⟨fun _ => latex_of_settle, fun _ => names_of_settle⟩

end Converters

/-! ## Names in outcomes -/

/-- The formula that a result is about: the one converted, or the one rejected. -/
def named? : Except Fault MathObject → Option String
  | .ok m => some m.latex
  | .error (.rejected latex _) => some latex
  | .error _ => none

/-- A result is about a formula as it was given, if it is about a formula. -/
def IsNamed (latex : String) (result : Except Fault MathObject) : Prop :=
  ∀ l, named? result = some l → l = latex

theorem IsNamed.of_ok {latex : String} {m : MathObject} (h : m.latex = latex) :
    IsNamed latex (.ok m) :=
  fun _ hl => (Option.some.inj hl).symm.trans h

theorem isNamed_of_rejected {latex l : String} {reason : Reason} :
    IsNamed latex (.error (.rejected l reason)) ↔ l = latex :=
  ⟨fun h => h l rfl, fun h _ hl => (Option.some.inj hl).symm.trans h⟩

namespace Converters

variable {σ : Type} (c : Converters σ) {latex : String} {display : Bool} {e : Engine σ}

/-- Braces that do not pair settle what comes of a formula. -/
theorem convertNow_of_not_isBalanced (h : ¬ IsBalanced (trim latex.toList)) :
    ∃ fault : BraceFault, (c.convertNow latex display e).result
      = .error (.rejected (trimmed latex) fault.reason) := by
  obtain ⟨fault, hsource⟩ := sourceOf_of_not_isBalanced h
  refine ⟨fault, ?_⟩
  rw [convertNow_of_error display hsource]

/-- A formula with braces that pair is named as it was given. -/
theorem isNamed_of_isBalanced (h : IsBalanced (trim latex.toList)) :
    IsNamed latex (c.convertNow latex display e).result := by
  obtain ⟨hconverted, hrejected⟩ := c.convertNow_names latex display e
  cases hresult : (c.convertNow latex display e).result with
  | ok m => exact .of_ok (hconverted m hresult)
  | error fault =>
    cases hrejected fault hresult with
    | given _ => exact isNamed_of_rejected.2 rfl
    | trimmed fault hnot => exact absurd h hnot
    | silent escape => exact fun _ hl => nomatch hl

theorem isNamed_convertNow_iff :
    IsNamed latex (c.convertNow latex display e).result ↔
      IsBalanced (trim latex.toList) ∨ trimmed latex = latex := by
  by_cases hbalanced : IsBalanced (trim latex.toList)
  · exact iff_of_true (c.isNamed_of_isBalanced hbalanced) (.inl hbalanced)
  · obtain ⟨fault, hrejected⟩ := c.convertNow_of_not_isBalanced hbalanced
    rw [hrejected, isNamed_of_rejected, or_iff_right hbalanced]

/-- An engine that has started names a formula as it was given, unless its braces do not pair and
    it has blanks around it. It is always so for a formula that is converted, and for one that is
    rejected if that is not for its braces; for these it is rejected by its name without the
    blanks. -/
theorem isNamed_iff (entities : Entities) (s : σ) (latex : String) (display : Bool) :
    let result := (c.convert latex display ⟨true, entities, s⟩).result
    (IsNamed latex result ↔ IsBalanced (trim latex.toList) ∨ trimmed latex = latex)
      ∧ (∀ m, result = .ok m → m.latex = latex)
      ∧ ∀ l reason, result = .error (.rejected l reason) →
          l = if reason.isAboutBraces then trimmed latex else latex := by
  intro result
  have hresult : result = (c.convertNow latex display ⟨true, entities, s⟩).result :=
    congrArg Outcome.result (c.convert_of_isReady latex display rfl)
  rw [hresult]
  obtain ⟨hconverted, hrejected⟩ := c.convertNow_names latex display ⟨true, entities, s⟩
  refine ⟨c.isNamed_convertNow_iff, hconverted, fun l reason hl => ?_⟩
  cases hrejected _ hl with
  | given hreason => rw [hreason, if_neg Bool.false_ne_true]
  | trimmed fault _ => rw [fault.isAboutBraces_reason, if_pos rfl]

/-- A brace between blanks is not named as it was given. -/
theorem not_isNamed_blanks :
    ¬ IsNamed " \x7b " (failing.convert " \x7b " false ⟨true, [], ()⟩).result := by
  intro h
  have hnamed : named? (failing.convert " \x7b " false ⟨true, [], ()⟩).result = some "\x7b" := by
    decide +kernel
  exact absurd (h _ hnamed) (by decide)

end Converters

end Manuscript.Formula
