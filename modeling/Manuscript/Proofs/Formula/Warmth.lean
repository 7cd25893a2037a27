import Manuscript.Proofs.Formula.Calls

/-!
# Steps without memory

Over steps whose answers depend on the questions alone, it makes no difference to a caller
who has used an engine before, and for what: engines that are both ready, or both not, give
the same answers (`Engine.Level`). An engine that is ready has been started by somebody, and
over such steps any other engine starts as well (`Engine.IsTrusted`).

* `convert_follows_level`: conversion by two engines that are level;
* `ready_of_isTrusted`: a new engine is level with a trusted one once it is ready;
* `isTrusted_run`: an engine is trusted after any run at its gate.
-/

namespace Manuscript.Formula

open Manuscript.Document Manuscript.Log Manuscript.Work

variable {σ : Type}

/-- The answers of two steps depend on the questions alone. -/
structure Converters.IsDeterministic (c : Converters σ) : Prop where
  toMarkup : ∀ source s s', (c.toMarkup source s).1 = (c.toMarkup source s').1
  toOffice : ∀ markup entities s s',
    (c.toOffice markup entities s).1 = (c.toOffice markup entities s').1

/-- Two engines are both ready or both not, and hand over the same named characters. -/
structure Engine.Level (e e' : Engine σ) : Prop where
  isReady : e.isReady = e'.isReady
  entities : e.entities = e'.entities

/-- An engine with all named characters. -/
def Engine.full (e : Engine σ) : Engine σ := { e with entities := namedCharacters }

/-- Every new engine over some steps starts. -/
def Converters.Starts (c : Converters σ) : Prop := ∀ s, (c.start { steps := s }).result = .ok ()

/-- An engine is not ready without reason: it has all named characters then, and every new
    engine over its steps starts. -/
def Engine.IsTrusted (c : Converters σ) (e : Engine σ) : Prop :=
  e.isReady = true → e.entities = namedCharacters ∧ c.Starts

namespace Converters

variable {c : Converters σ} {e e' : Engine σ}

/-! ## Level engines -/

section Level

variable (hdet : c.IsDeterministic)

include hdet

theorem convertNow_follows_level (latex : String) (display : Bool) :
    Follows Engine.Level (c.convertNow latex display) (c.convertNow latex display) := by
  have hfirst (source : String) :
      Follows Engine.Level (onSteps fun e => c.toMarkup source e.steps)
        (onSteps fun e => c.toMarkup source e.steps) := fun e e' h =>
    ⟨congrArg Except.ok (hdet.toMarkup source e.steps e'.steps), rfl, h.isReady, h.entities⟩
  have hsecond (markup : String) :
      Follows Engine.Level (onSteps fun e => c.toOffice markup e.entities e.steps)
        (onSteps fun e => c.toOffice markup e.entities e.steps) := fun e e' h => by
    have hanswer := hdet.toOffice markup e.entities e.steps e'.steps
    refine ⟨congrArg Except.ok ?_, rfl, h.isReady, h.entities⟩
    rw [hanswer, h.entities]
  rw [convertNow_eq]
  refine .bind (.bind (.ofExcept _) fun source => ?_) fun markup =>
    .bind (hsecond markup) fun _ => ?_
  · split
    · exact .bind (.tell _) fun _ => .bind (hfirst _) fun _ => .ofExcept _
    · exact .bind (hfirst _) fun _ => .ofExcept _
  · exact .bind (.ofExcept _) fun _ => .pure _

theorem start_follows_level : Follows Engine.Level c.start c.start := by
  refine .read fun e e' h => ?_
  rw [h.isReady]
  split
  · exact .pure ()
  · refine .read fun e e' h => .bind (.put ⟨h.isReady, rfl⟩) fun _ => ?_
    refine .bind (.mapFault _ (convertNow_follows_level hdet probe false)) fun _ => ?_
    exact .read fun e e' h => .bind (.put ⟨rfl, h.entities⟩) fun _ => .tell _

theorem ready_follows_level : Follows Engine.Level c.ready c.ready := fun e e' h => by
  cases he : e.isReady with
  | true =>
    rw [ready_of_isReady he, ready_of_isReady (h.isReady.symm.trans he)]
    exact ⟨rfl, rfl, h⟩
  | false =>
    rw [ready_of_not_isReady he, ready_of_not_isReady (h.isReady.symm.trans he)]
    exact start_follows_level hdet e e' h

theorem convert_follows_level (latex : String) (display : Bool) :
    Follows Engine.Level (c.convert latex display) (c.convert latex display) :=
  .bind (ready_follows_level hdet) fun _ => convertNow_follows_level hdet latex display

end Level

/-! ## Engines that start -/

/-- Whatever an engine has handed over before, it starts with all named characters. -/
theorem start_full (he : e.isReady = false) : c.start e.full = c.start e := by
  have hfull : e.full.isReady = false := he
  rw [start, bind_ok (w := (Work.state : Work (Engine σ) Fault _)) rfl,
    bind_ok (w := (Work.state : Work (Engine σ) Fault _)) rfl, he, hfull]
  rfl

/-- An engine that starts is ready with all named characters, and one that does not is not. -/
theorem start_ends (he : e.isReady = false) :
    Ends c.start e (fun _ e' => e'.isReady = true ∧ e'.entities = namedCharacters)
      fun _ e' => e'.isReady = false := by
  obtain ⟨hresult, hsaid, hstate⟩ := c.start_follows e.recorded e e.records_recorded
  rcases hrun : c.start e with ⟨r, said, e'⟩
  rw [hrun] at hresult hstate
  cases c.start_asks (e := e.recorded) he rfl with
  | of_ok run holds =>
    rw [run] at hresult hstate
    cases hresult
    cases hstate
    exact .of_ok hrun ⟨holds.1, holds.2.1⟩
  | of_error run fails =>
    rw [run] at hresult hstate
    cases hresult
    cases hstate
    exact .of_error hrun fails.1

/-- An engine that has been started is ready. -/
theorem isReady_of_start {said : List Notice} (h : c.start e = ⟨.ok (), said, e'⟩) :
    e'.isReady = true := by
  cases he : e.isReady with
  | true =>
    rw [c.start_of_isReady he] at h
    cases h
    exact he
  | false =>
    cases start_ends (c := c) he with
    | of_ok run holds =>
      cases h.symm.trans run
      exact holds.1
    | of_error run fails => cases h.symm.trans run

theorem isReady_of_ready {said : List Notice} (h : c.ready e = ⟨.ok (), said, e'⟩) :
    e'.isReady = true := by
  cases he : e.isReady with
  | true =>
    cases (ready_of_isReady he).symm.trans h
    exact he
  | false => exact isReady_of_start ((ready_of_not_isReady he).symm.trans h)

variable (c)

/-- The parts of a conversion change nothing about an engine but the state of its steps. -/
theorem markupFor_state (latex : String) (e : Engine σ) :
    ∃ s, (c.markupFor latex e).state = { e with steps := s } := by
  rcases hsource : sourceOf latex with fault | source
  · rw [markupFor_of_fault c hsource]
    exact ⟨e.steps, rfl⟩
  · rw [markupFor_of_source c hsource]
    exact ⟨_, rfl⟩

theorem finish_state (latex : String) (display : Bool) (markup : String) (e : Engine σ) :
    ∃ s, (c.finish latex display markup e).state = { e with steps := s } := by
  rw [finish_eq]
  exact ⟨_, rfl⟩

variable {c}

section Keeps

variable {I : Engine σ → Prop} (hI : ∀ e s, I e → I { e with steps := s })

include hI

/-- So they keep what does not depend on that state. -/
theorem markupFor_keeps (latex : String) : Keeps I True (c.markupFor latex) fun _ => True :=
  .of_state fun e h => by
    obtain ⟨s, hs⟩ := c.markupFor_state latex e
    rw [hs]
    exact hI e s h

theorem finish_keeps (latex : String) (display : Bool) (markup : String) :
    Keeps I True (c.finish latex display markup) fun _ => True :=
  .of_state fun e h => by
    obtain ⟨s, hs⟩ := c.finish_state latex display markup e
    rw [hs]
    exact hI e s h

theorem convertNow_keeps (latex : String) (display : Bool) :
    Keeps I True (c.convertNow latex display) fun _ => True := by
  rw [convertNow_eq]
  exact (markupFor_keeps hI latex).bind fun markup _ => finish_keeps hI latex display markup

end Keeps

/-- Conversion leaves an engine ready. -/
theorem convert_keeps_isReady (latex : String) (display : Bool) :
    Keeps (fun e : Engine σ => e.isReady = true) True (c.convert latex display) fun _ => True := by
  refine Keeps.bind (P := fun _ => True) (.of_state fun e he => ?_) fun _ _ =>
    convertNow_keeps (fun _ _ h => h) latex display
  rw [ready_of_isReady he]
  exact he

/-! ## Trust -/

/-- A new engine that is asked to be ready is level with any engine that is trusted and ready. -/
theorem ready_of_isTrusted (h : e.IsTrusted c) (he : e.isReady = true) (s : σ) :
    Ends c.ready ({ steps := s } : Engine σ) (fun _ e' => e'.Level e) fun _ _ => False := by
  have hstarts := (h he).2 s
  have hready : c.ready { steps := s } = c.start { steps := s } := ready_of_not_isReady rfl
  cases start_ends (c := c) (e := { steps := s }) rfl with
  | of_ok run holds =>
    exact .of_ok (hready.trans run) ⟨holds.1.trans he.symm, holds.2.trans (h he).1.symm⟩
  | of_error run fails =>
    rw [run] at hstarts
    cases hstarts

/-- The engines stay trusted that an activity works on. -/
abbrev KeepsTrust {ε α : Type} (c : Converters σ) (w : Work (Engine σ) ε α) : Prop :=
  Keeps (Engine.IsTrusted c) True w fun _ => True

section Trust

variable (hdet : c.IsDeterministic)

include hdet

/-- Engines that are not ready start or do not start alike. -/
theorem start_result_eq (he : e.isReady = false) (he' : e'.isReady = false) :
    (c.start e).result = (c.start e').result := by
  rw [← start_full he, ← start_full he']
  exact (start_follows_level hdet e.full e'.full ⟨he.trans he'.symm, rfl⟩).1

theorem isTrusted_start (h : e.IsTrusted c) : (c.start e).state.IsTrusted c := by
  cases he : e.isReady with
  | true =>
    rw [c.start_of_isReady he]
    exact h
  | false =>
    cases start_ends (c := c) he with
    | of_ok run holds =>
      -- It has started, and so does any other engine that is not ready.
      rw [run]
      refine fun _ => ⟨holds.2, fun s => ?_⟩
      rw [start_result_eq hdet (e := { steps := s }) rfl he, run]
    | of_error run fails =>
      rw [run]
      exact fun h => absurd (fails.symm.trans h) Bool.false_ne_true

theorem start_keepsTrust : KeepsTrust c c.start :=
  .of_state fun _ => isTrusted_start hdet

theorem ready_keepsTrust : KeepsTrust c c.ready :=
  .of_state fun e h => by
    cases he : e.isReady with
    | true =>
      rw [ready_of_isReady he]
      exact h
    | false =>
      rw [ready_of_not_isReady he]
      exact isTrusted_start hdet h

theorem convert_keepsTrust (latex : String) (display : Bool) :
    KeepsTrust c (c.convert latex display) :=
  (ready_keepsTrust hdet).bind fun _ _ => convertNow_keeps (fun _ _ h => h) latex display

/-- No step of a caller makes an engine ready without reason. -/
theorem proceed_keepsTrust (stage : Stage) : KeepsTrust c (c.proceed stage) := by
  cases stage with
  | arriving request =>
    refine .of_state fun e h => ?_
    rw [proceed, bind_ok (w := (Work.state : Work (Engine σ) Fault _)) rfl]
    split <;> exact h
  | outside request => exact (start_keepsTrust hdet).bind fun _ _ => .pure trivial
  | inside latex display => exact (markupFor_keeps (fun _ _ h => h) latex).bind fun _ _ => .pure trivial
  | halfway latex display markup =>
    exact (finish_keeps (fun _ _ h => h) latex display markup).bind fun _ _ => .pure trivial

end Trust

end Converters

/-- An engine is trusted after any run at its gate. -/
theorem Gate.isTrusted_run {c : Converters σ} (hdet : c.IsDeterministic) {g : Gate σ}
    (h : g.engine.IsTrusted c) (moves : List Move) : (g.run c moves).engine.IsTrusted c := by
  induction moves generalizing g with
  | nil => exact h
  | cons move rest ih =>
    refine ih (g := g.next c move) ?_
    cases move with
    | arrive request => exact h
    | go place =>
      cases hplace : g.callers[place]? with
      | none =>
        simp only [next, hplace]
        exact h
      | some stage =>
        have hstate : (g.outcome c stage).state.unrecorded = (c.proceed stage g.engine).state :=
          (c.proceed_follows stage _ _ g.engine.records_recorded).2.2
        simp only [next, hplace, hstate]
        exact (Converters.proceed_keepsTrust hdet stage).state h

end Manuscript.Formula
