import Manuscript.Formula.Bridge
import Manuscript.Proofs.Work

/-!
# Questions to the steps

What the two steps of a conversion are asked, and in which order. Any two steps can be
recorded: they answer as before, and what they are asked stands in their state
(`Converters.recorded`). A conversion has two parts, of which each asks one step, once;
they are taken up by themselves, as others may use the steps between the two.

* `convertNow_eq`: a conversion is its two parts;
* `markupFor_asks`, `finish_asks`: what each part asks;
* `start_asks`: an engine that starts tries itself with a formula, and is ready if that passes;
* `start_follows`, `convertNow_follows`: recorded steps change nothing.
-/

namespace Manuscript.Formula

open Manuscript.Document Manuscript.Log Manuscript.Text Manuscript.Work

variable {σ : Type}

/-! ## Records -/

/-- A question to a step, with the answer to it. -/
inductive Question where
  /-- To the first step, about the source of a formula. -/
  | markup (source : String) (answer : Answer)
  /-- To the second step, about mathematical markup, with named characters. -/
  | office (markup : String) (entities : Entities) (answer : Answer)

/-- Two steps that keep what they are asked. -/
def Converters.recorded (c : Converters σ) : Converters (σ × List Question) where
  toMarkup source s :=
    let r := c.toMarkup source s.1
    (r.1, r.2, s.2 ++ [.markup source r.1])
  toOffice markup entities s :=
    let r := c.toOffice markup entities s.1
    (r.1, r.2, s.2 ++ [.office markup entities r.1])

namespace Engine

/-- An engine without the record of its steps. -/
def unrecorded (e : Engine (σ × List Question)) : Engine σ := ⟨e.isReady, e.entities, e.steps.1⟩

/-- An engine over steps that have been asked nothing yet. -/
def recorded (e : Engine σ) : Engine (σ × List Question) := ⟨e.isReady, e.entities, e.steps, []⟩

/-- An engine is another one with a record. -/
def Records (e : Engine (σ × List Question)) (e' : Engine σ) : Prop := e.unrecorded = e'

/-- What the steps of an engine have been asked. -/
abbrev asked (e : Engine (σ × List Question)) : List Question := e.steps.2

theorem records_recorded (e : Engine σ) : e.recorded.Records e := rfl

end Engine

/-- From one engine to another the steps have been asked some questions more, and nothing
    else about the engine has changed. -/
structure Asks (e e' : Engine (σ × List Question)) (questions : List Question) : Prop where
  asked : e'.asked = e.asked ++ questions
  isReady : e'.isReady = e.isReady
  entities : e'.entities = e.entities

namespace Converters

variable (c : Converters σ) {latex : String} {display : Bool}

/-! ## Two parts -/

/-- The source of a formula, if it passes the checks before the first step. -/
def sourceOf (latex : String) : Except Fault (List Char) :=
  let source := trim latex.toList
  if source.isEmpty then .error (.rejected latex .empty)
  else
    match braceFault? source with
    | some fault => .error (.rejected (String.ofList source) fault.reason)
    | none => .ok source

/-- What the first step is asked about the source of a formula. -/
def prepared (source : List Char) : String := String.ofList (uprightText source)

/-- The first part of a conversion; the second one is `Converters.finish`. -/
def markupFor (latex : String) : Work (Engine σ) Fault String := do
  let source ← Work.ofExcept (sourceOf latex)
  if uprightText source != source then Work.tell .textReplaced
  let answer ← onSteps fun e => c.toMarkup (prepared source) e.steps
  Work.ofExcept (markupIn latex answer)

/-- A formula that fails the first checks has no source. -/
theorem markupFor_of_fault {fault : Fault} (h : sourceOf latex = .error fault) (e : Engine σ) :
    c.markupFor latex e = ⟨.error fault, [], e⟩ :=
  bind_error (by rw [h]; rfl)

/-- The first step is asked once. -/
theorem markupFor_of_source {source : List Char} (h : sourceOf latex = .ok source)
    (e : Engine σ) :
    c.markupFor latex e
      = ⟨markupIn latex (c.toMarkup (prepared source) e.steps).1,
          if uprightText source != source then [.textReplaced] else [],
          { e with steps := (c.toMarkup (prepared source) e.steps).2 }⟩ := by
  rw [markupFor, bind_ok (w := Work.ofExcept (sourceOf latex)) (by rw [h]; rfl)]
  split <;> rfl

/-- The second step is asked once. -/
theorem finish_eq (markup : String) (e : Engine σ) :
    c.finish latex display markup e
      = ⟨(elementOf latex (c.toOffice markup e.entities e.steps).1).map fun t =>
            ⟨t, latex, display⟩, [],
          { e with steps := (c.toOffice markup e.entities e.steps).2 }⟩ := by
  rw [finish, bind_ok (w := onSteps _) rfl]
  cases elementOf latex (c.toOffice markup e.entities e.steps).1 <;> rfl

/-- What is done with a source that has been checked is what the two parts do then. -/
theorem convertChecked_eq {source : List Char} (h : sourceOf latex = .ok source) :
    c.convertChecked latex display source = c.markupFor latex >>= c.finish latex display := by
  have hok : (Work.ofExcept (.ok source) : Work (Engine σ) Fault _) = pure source := rfl
  simp only [convertChecked, markupFor, h, hok, pure_bind]
  -- With a notice before the first step or without, the checks after it are the same.
  split <;> simp only [bind_assoc] <;> rfl

/-- A conversion is its two parts. -/
theorem convertNow_eq (latex : String) (display : Bool) :
    c.convertNow latex display = c.markupFor latex >>= c.finish latex display := by
  simp only [convertNow]
  split
  · next hempty =>
    have hsource : sourceOf latex = .error (.rejected latex .empty) := by
      simp only [sourceOf, hempty, if_true]
    exact funext fun e => (bind_error (c.markupFor_of_fault hsource e)).symm
  · next hempty =>
    split
    · next fault hfault =>
      have hsource : sourceOf latex
          = .error (.rejected (String.ofList (trim latex.toList)) fault.reason) := by
        simp only [sourceOf, hempty, hfault, Bool.false_eq_true, if_false]
      exact funext fun e => (bind_error (c.markupFor_of_fault hsource e)).symm
    · next hfault =>
      refine c.convertChecked_eq ?_
      simp only [sourceOf, hempty, hfault, Bool.false_eq_true, if_false]

/-! ## Recorded steps -/

theorem toMarkup_follows (source : String) :
    Follows Engine.Records (onSteps fun e => c.recorded.toMarkup source e.steps)
      (onSteps fun e => c.toMarkup source e.steps) := by
  rintro e _ rfl
  exact ⟨rfl, rfl, rfl⟩

/-- Both parts, and what is made of them, do the same over recorded steps. -/
theorem markupFor_follows (latex : String) :
    Follows Engine.Records (c.recorded.markupFor latex) (c.markupFor latex) := by
  refine .bind (.ofExcept _) fun source => ?_
  split
  · exact .bind (.tell _) fun _ => .bind (c.toMarkup_follows _) fun _ => .ofExcept _
  · exact .bind (c.toMarkup_follows _) fun _ => .ofExcept _

theorem finish_follows (latex : String) (display : Bool) (markup : String) :
    Follows Engine.Records (c.recorded.finish latex display markup)
      (c.finish latex display markup) := by
  refine .bind (fun _ _ h => ?_) fun answer => ?_
  · cases h
    exact ⟨rfl, rfl, rfl⟩
  · exact .bind (.ofExcept _) fun _ => .pure _

theorem convertNow_follows (latex : String) (display : Bool) :
    Follows Engine.Records (c.recorded.convertNow latex display)
      (c.convertNow latex display) := by
  rw [convertNow_eq, convertNow_eq]
  exact .bind (c.markupFor_follows latex) fun markup => c.finish_follows latex display markup

theorem start_follows : Follows Engine.Records c.recorded.start c.start := by
  refine .read ?_
  rintro e _ rfl
  have hready : e.unrecorded.isReady = e.isReady := rfl
  rw [hready]
  split
  · exact .pure ()
  · refine .read ?_
    rintro e _ rfl
    refine .bind (.put rfl) fun _ => ?_
    refine .bind (.mapFault _ (c.convertNow_follows probe false)) fun _ => .read ?_
    rintro e _ rfl
    exact .bind (.put rfl) fun _ => .tell _

theorem markupIn_eq_ok_iff {answer : Answer} {markup : String} :
    markupIn latex answer = .ok markup ↔
      answer = .text markup ∧ ∃ root, Xml.document? markup = .ok root ∧ leftover? root = none := by
  cases answer with
  | text s =>
    simp only [markupIn, Answer.text.injEq]
    constructor
    · intro h
      cases hroot : Xml.document? s with
      | error fault =>
        rw [hroot] at h
        cases h
      | ok root =>
        simp only [hroot] at h
        cases hleft : leftover? root with
        | some command =>
          rw [hleft] at h
          cases h
        | none =>
          rw [hleft] at h
          cases h
          exact ⟨rfl, root, hroot, hleft⟩
    · rintro ⟨rfl, root, hroot, hleft⟩
      simp only [hroot, hleft]
  | _ => simp [markupIn]

/-- The first part asks the first step, if it has something to ask it. -/
theorem markupFor_asks (latex : String) (e : Engine (σ × List Question)) :
    Ends (c.recorded.markupFor latex) e
      (fun markup e' => ∃ source root, sourceOf latex = .ok source
        ∧ Asks e e' [.markup (prepared source) (.text markup)]
        ∧ Xml.document? markup = .ok root ∧ leftover? root = none)
      fun _ e' => (∃ fault, sourceOf latex = .error fault) ∧ Asks e e' [] ∨
        ∃ source answer, sourceOf latex = .ok source
          ∧ Asks e e' [.markup (prepared source) answer] := by
  rcases hsource : sourceOf latex with fault | source
  · exact .of_error (c.recorded.markupFor_of_fault hsource e)
      (.inl ⟨⟨fault, rfl⟩, (List.append_nil _).symm, rfl, rfl⟩)
  · have hrun := c.recorded.markupFor_of_source hsource e
    generalize hanswer : c.recorded.toMarkup (prepared source) e.steps = r at hrun
    have hasked : r.2.2 = e.asked ++ [.markup (prepared source) r.1] := by rw [← hanswer]; rfl
    rcases hmarkup : markupIn latex r.1 with fault | markup
    · rw [hmarkup] at hrun
      exact .of_error hrun (.inr ⟨source, r.1, rfl, hasked, rfl, rfl⟩)
    · rw [hmarkup] at hrun
      obtain ⟨htext, root, hroot, hleft⟩ := markupIn_eq_ok_iff.1 hmarkup
      rw [htext] at hasked
      exact .of_ok hrun ⟨source, root, rfl, ⟨hasked, rfl, rfl⟩, hroot, hleft⟩

/-- The second part asks the second step, with the named characters of the engine. -/
theorem finish_asks (latex : String) (display : Bool) (markup : String)
    (e : Engine (σ × List Question)) :
    Ends (c.recorded.finish latex display markup) e
      (fun _ e' => ∃ answer t, Asks e e' [.office markup e.entities answer]
        ∧ elementOf latex answer = .ok t)
      fun _ e' => ∃ answer fault, Asks e e' [.office markup e.entities answer]
        ∧ elementOf latex answer = .error fault := by
  have hrun : c.recorded.finish latex display markup e = _ := c.recorded.finish_eq markup e
  generalize hanswer : c.recorded.toOffice markup e.entities e.steps = r at hrun
  have hasked : r.2.2 = e.asked ++ [.office markup e.entities r.1] := by rw [← hanswer]; rfl
  rcases helement : elementOf latex r.1 with fault | t
  · rw [helement] at hrun
    exact .of_error hrun ⟨r.1, fault, ⟨hasked, rfl, rfl⟩, helement⟩
  · rw [helement] at hrun
    exact .of_ok hrun ⟨r.1, t, ⟨hasked, rfl, rfl⟩, helement⟩

/-! ## Start -/

/-- An engine has tried itself, with all named characters. -/
def IsProbe (asked : List Question) : Prop :=
  ∃ answer, asked = [.markup probe answer] ∨
    ∃ markup answer', asked = [.markup probe answer, .office markup namedCharacters answer']

/-- An engine has tried itself, and its formula went through: the first step gave markup without
    commands left over, and from that the second one, with all named characters, markup with
    content. -/
def Passes (asked : List Question) : Prop :=
  ∃ markup root answer t,
    asked = [.markup probe (.text markup), .office markup namedCharacters answer]
      ∧ Xml.document? markup = .ok root ∧ leftover? root = none
      ∧ elementOf probe answer = .ok t

theorem Passes.isProbe {asked : List Question} (h : Passes asked) : IsProbe asked := by
  obtain ⟨markup, root, answer, t, rfl, -⟩ := h
  exact ⟨_, .inr ⟨markup, answer, rfl⟩⟩

theorem IsProbe.source_eq {asked : List Question} (h : IsProbe asked) {source : String}
    {answer : Answer} (hasked : .markup source answer ∈ asked) : source = probe := by
  obtain ⟨answer', rfl | ⟨markup, second, rfl⟩⟩ := h
  · exact (Question.markup.inj (List.mem_singleton.1 hasked)).1
  · rcases List.mem_cons.1 hasked with heq | hmem
    · exact (Question.markup.inj heq).1
    · cases List.mem_singleton.1 hmem

theorem IsProbe.entities_eq {asked : List Question} (h : IsProbe asked) {markup : String}
    {entities : Entities} {answer : Answer} (hasked : .office markup entities answer ∈ asked) :
    entities = namedCharacters := by
  obtain ⟨answer', rfl | ⟨markup', second, rfl⟩⟩ := h
  · cases List.mem_singleton.1 hasked
  · rcases List.mem_cons.1 hasked with heq | hmem
    · cases heq
    · exact (Question.office.inj (List.mem_singleton.1 hmem)).2.1

theorem not_passes_singleton (q : Question) : ¬ Passes [q] := by
  rintro ⟨markup, root, answer, t, h, -⟩
  cases h

theorem not_passes_of_error {markup : String} {entities : Entities} {first second : Answer}
    {fault : Fault} (h : elementOf probe second = .error fault) :
    ¬ Passes [.markup probe first, .office markup entities second] := by
  rintro ⟨markup', root, answer, t, heq, -, -, ht⟩
  cases heq
  exact nomatch h.symm.trans ht

theorem sourceOf_probe : sourceOf probe = .ok probe.toList := by
  have htrim : trim probe.toList = probe.toList := by decide +kernel
  have hblank : probe.toList.isEmpty = false := by decide +kernel
  have hbraces : braceFault? probe.toList = none := by decide +kernel
  simp only [sourceOf, htrim, hblank, hbraces, Bool.false_eq_true, if_false]

theorem prepared_probe : prepared probe.toList = probe := by decide +kernel

variable {e : Engine (σ × List Question)}

/-- The formula that an engine tries itself with is converted if it passes. -/
theorem probe_asks (hasked : e.asked = []) (hentities : e.entities = namedCharacters) :
    Ends (c.recorded.convertNow probe false) e
      (fun _ e' => e'.entities = namedCharacters ∧ Passes e'.asked)
      fun _ e' => e'.isReady = e.isReady ∧ IsProbe e'.asked ∧ ¬ Passes e'.asked := by
  rw [convertNow_eq]
  refine .bind ((c.markupFor_asks probe e).mono (fun _ _ h => h) fun fault e' h => ?_)
    fun markup e' h => ?_
  · rcases h with ⟨⟨fault, h⟩, -⟩ | ⟨source, answer, h, hfirst⟩
    · exact nomatch sourceOf_probe.symm.trans h
    · cases sourceOf_probe.symm.trans h
      rw [hfirst.asked, hasked, prepared_probe]
      exact ⟨hfirst.isReady, ⟨answer, .inl rfl⟩, not_passes_singleton _⟩
  · obtain ⟨source, root, h, hfirst, hroot, hleft⟩ := h
    cases sourceOf_probe.symm.trans h
    have hfull : e'.entities = namedCharacters := hfirst.entities.trans hentities
    have hasked' := hfirst.asked
    rw [hasked, prepared_probe] at hasked'
    refine (c.finish_asks probe false markup e').mono (fun _ e'' h => ?_) fun _ e'' h => ?_
    · obtain ⟨answer, t, hsecond, ht⟩ := h
      rw [hsecond.asked, hasked', hfull]
      exact ⟨hsecond.entities.trans hfull, markup, root, answer, t, rfl, hroot, hleft, ht⟩
    · obtain ⟨answer, fault, hsecond, hfault⟩ := h
      rw [hsecond.asked, hasked', hfull]
      exact ⟨hsecond.isReady.trans hfirst.isReady, ⟨_, .inr ⟨_, _, rfl⟩⟩,
        not_passes_of_error hfault⟩

/-- An engine that is not ready tries itself, and is ready then if it passes. -/
theorem start_asks (he : e.isReady = false) (hasked : e.asked = []) :
    Ends c.recorded.start e
      (fun _ e' => e'.isReady = true ∧ e'.entities = namedCharacters ∧ Passes e'.asked)
      fun _ e' => e'.isReady = false ∧ IsProbe e'.asked ∧ ¬ Passes e'.asked := by
  refine .read ?_
  rw [he, if_neg Bool.false_ne_true]
  have hprobe := c.probe_asks (e := { e with entities := namedCharacters }) hasked rfl
  refine .read (.put (.bind (.mapFault (hprobe.mono (fun _ _ h => h) fun _ e' h => ?_)) ?_))
  · exact ⟨h.1.trans he, h.2⟩
  · rintro m e' ⟨hentities, hpasses⟩
    exact .read (.put (.tell ⟨rfl, hentities, hpasses⟩))

/-- An engine that is ready starts at once. -/
theorem start_of_isReady {e : Engine σ} (he : e.isReady = true) : c.start e = ⟨.ok (), [], e⟩ := by
  rw [start, bind_ok (w := (Work.state : Work (Engine σ) Fault _)) rfl, he]
  rfl

end Converters

end Manuscript.Formula
