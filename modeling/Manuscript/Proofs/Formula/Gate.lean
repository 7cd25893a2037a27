import Manuscript.Proofs.Formula.Containment
import Manuscript.Proofs.Formula.Questions

/-!
# The gate of an engine

An engine serves formulas once it has started, and any number of callers may find it not
started at the same time: each looks whether it is ready, without a lock, and only then
waits for the lock under which the engine starts. So what a caller has seen may be out of
date when it enters. Here callers stand at a *gate*, and one of them at a time takes a
step: it looks, it enters and starts the engine, or it has one of the two steps of the
conversion asked about its formula. A *deed* is such a step with what is asked in it.

* `happens_deed`: what a single step can do;
* `recordFrom_deeds`: any run is a chain of such steps;
* `isGuarded_deeds`: what holds of every run of a gate, however the steps of its callers
  interleave, and that calls one after the other, and callers that start the engine
  together, are such runs.
-/

namespace Manuscript.Formula

open Manuscript.Document Manuscript.Work

variable {σ : Type}

/-! ## Callers -/

/-- What a caller wants. -/
inductive Request where
  /-- That the engine be ready. -/
  | ready
  /-- A formula. -/
  | convert (latex : String) (display : Bool)

/-- Where a caller stands. -/
inductive Stage where
  /-- It has not looked whether the engine is ready. -/
  | arriving (request : Request)
  /-- It has seen that the engine is not ready, and waits for the lock. -/
  | outside (request : Request)
  /-- It has a formula for the first step. -/
  | inside (latex : String) (display : Bool)
  /-- It has markup of a formula for the second step. -/
  | halfway (latex : String) (display : Bool) (markup : String)

/-- What a step of a caller comes to. -/
inductive Progress where
  /-- The caller stands somewhere else. -/
  | moved (stage : Stage)
  /-- The call has ended, with a formula if one was wanted. -/
  | ended (value : Option MathObject)

/-- Whether a caller is past the gate, with a formula. -/
def Stage.IsPast : Stage → Prop
  | arriving _ | outside _ => False
  | inside .. | halfway .. => True

/-- What becomes of a caller that the gate lets in. -/
def Request.admitted : Request → Progress
  | ready => .ended none
  | convert latex display => .moved (.inside latex display)

/-- A step of a caller. -/
def Converters.proceed (c : Converters σ) : Stage → Work (Engine σ) Fault Progress
  | .arriving request => do
    if (← Work.state).isReady then return request.admitted
    else return .moved (.outside request)
  | .outside request => do
    c.start
    return request.admitted
  | .inside latex display => do
    return .moved (.halfway latex display (← c.markupFor latex))
  | .halfway latex display markup => do
    return .ended (some (← c.finish latex display markup))

/-! ## Runs -/

/-- An engine and its callers. -/
structure Gate (σ : Type) where
  /-- The engine. -/
  engine : Engine σ
  /-- Those who have called and have had no answer yet. -/
  callers : List Stage := []

/-- What happens next at a gate. -/
inductive Move where
  /-- Somebody calls. -/
  | arrive (request : Request)
  /-- The caller at a place takes a step. -/
  | go (place : Nat)

/-- A step that a caller has taken. -/
structure Deed where
  /-- Where the caller stood. -/
  stage : Stage
  /-- Whether the engine was ready. -/
  before : Bool
  /-- Whether the engine is ready now. -/
  after : Bool
  /-- What the steps of the conversion have been asked. -/
  asked : List Question
  /-- What has come of it. -/
  outcome : Except Fault Progress

/-- A caller makes the engine ready. -/
def Deed.Opens (d : Deed) : Prop := d.before = false ∧ d.after = true

namespace Gate

variable (c : Converters σ) (g : Gate σ)

/-- The outcome of a step of a caller that stands at a stage. -/
def outcome (stage : Stage) : Outcome (Engine (σ × List Question)) Fault Progress :=
  c.recorded.proceed stage g.engine.recorded

/-- The step of a caller that stands at a stage. -/
def deed (stage : Stage) : Deed :=
  let o := g.outcome c stage
  ⟨stage, g.engine.isReady, o.state.isReady, o.state.asked, o.result⟩

/-- The callers after a step of one of them. Somebody who has an answer is no caller any more. -/
def left (result : Except Fault Progress) (place : Nat) (callers : List Stage) : List Stage :=
  match result with
  | .ok (.moved stage) => callers.set place stage
  | .ok (.ended _) | .error _ => callers.eraseIdx place

/-- The gate after a move. -/
def next : Move → Gate σ
  | .arrive request => { g with callers := g.callers ++ [.arriving request] }
  | .go place =>
    match g.callers[place]? with
    | none => g
    | some stage =>
      let o := g.outcome c stage
      ⟨o.state.unrecorded, left o.result place g.callers⟩

/-- The step that a move is. -/
def deed? : Move → Option Deed
  | .arrive _ => none
  | .go place => (g.callers[place]?).map (g.deed c)

/-- The gate after some moves. -/
def run (moves : List Move) : Gate σ := moves.foldl (next c) g

/-- The steps that some moves are. -/
def deeds (c : Converters σ) : Gate σ → List Move → List Deed
  | _, [] => []
  | g, move :: rest => (g.deed? c move).toList ++ (g.next c move).deeds c rest

end Gate

/-! ## One step -/

/-- What a step of a caller can do. -/
inductive Happens : Deed → Prop where
  /-- A caller finds the engine ready. -/
  | admits (request : Request) :
    Happens ⟨.arriving request, true, true, [], .ok request.admitted⟩
  /-- A caller finds that the engine is not ready. -/
  | turnsAway (request : Request) :
    Happens ⟨.arriving request, false, false, [], .ok (.moved (.outside request))⟩
  /-- A caller enters after another has started the engine. -/
  | comesLate (request : Request) :
    Happens ⟨.outside request, true, true, [], .ok request.admitted⟩
  /-- A caller starts the engine. -/
  | opens (request : Request) {asked : List Question} (passes : Converters.Passes asked) :
    Happens ⟨.outside request, false, true, asked, .ok request.admitted⟩
  /-- A caller fails to start the engine. -/
  | fails (request : Request) {asked : List Question} (fault : Fault)
      (probes : Converters.IsProbe asked) (misses : ¬ Converters.Passes asked) :
    Happens ⟨.outside request, false, false, asked, .error fault⟩
  /-- The first step is asked about a formula, unless the formula fails the checks before. -/
  | asksFirst (latex : String) (display : Bool) {asked : List Question}
      {outcome : Except Fault Progress}
      (questions : asked = [] ∨ ∃ source answer, Converters.sourceOf latex = .ok source
        ∧ asked = [.markup (Converters.prepared source) answer])
      (moves : ∀ stage, outcome = .ok (.moved stage) →
        ∃ markup, stage = .halfway latex display markup) :
    Happens ⟨.inside latex display, true, true, asked, outcome⟩
  /-- The second step is asked about the markup of a formula. -/
  | asksSecond (latex : String) (display : Bool) (markup : String) (answer : Answer)
      {outcome : Except Fault Progress} (ends : ∀ stage, outcome ≠ .ok (.moved stage)) :
    Happens ⟨.halfway latex display markup, true, true,
      [.office markup namedCharacters answer], outcome⟩

namespace Happens

variable {d : Deed}

/-- No step makes an engine unready that is ready. -/
theorem stays (h : Happens d) (hbefore : d.before = true) : d.after = true := by
  cases h with
  | turnsAway request => exact hbefore
  | opens request passes => rfl
  | fails request fault probes misses => exact hbefore
  | _ => rfl

/-- Nobody gets past the gate of an engine that is not ready. -/
theorem isOpen_of_isPast (h : Happens d) {stage : Stage} (hmoved : d.outcome = .ok (.moved stage))
    (hpast : stage.IsPast) : d.after = true := by
  cases h with
  | turnsAway request =>
    cases hmoved
    exact hpast.elim
  | fails request fault probes misses => cases hmoved
  | _ => rfl

end Happens

namespace Gate

/-- What holds of a gate at any time: an engine that is ready has all named characters, and
    nobody is past the gate of one that is not. -/
structure IsSound (g : Gate σ) : Prop where
  entities : g.engine.isReady = true → g.engine.entities = namedCharacters
  callers : ∀ stage ∈ g.callers, stage.IsPast → g.engine.isReady = true

/-- An engine that nobody has started is sound, whoever waits for it. -/
theorem isSound_fresh (s : σ) : IsSound ⟨{ steps := s }, []⟩ :=
  ⟨fun h => absurd h Bool.false_ne_true, fun _ h => absurd h List.not_mem_nil⟩

variable {c : Converters σ} {g : Gate σ} {stage : Stage}

/-- A step of a caller of a sound gate is one of those that can happen, and an engine that is
    ready then has all named characters. -/
theorem proceed_happens (h : g.IsSound) (hstage : stage.IsPast → g.engine.isReady = true) :
    Ends (c.recorded.proceed stage) g.engine.recorded
      (fun progress e' => Happens ⟨stage, g.engine.isReady, e'.isReady, e'.asked, .ok progress⟩
        ∧ (e'.isReady = true → e'.entities = namedCharacters))
      fun fault e' => Happens ⟨stage, g.engine.isReady, e'.isReady, e'.asked, .error fault⟩
        ∧ (e'.isReady = true → e'.entities = namedCharacters) := by
  have hsame : g.engine.recorded.isReady = g.engine.isReady := rfl
  have hfull : g.engine.recorded.isReady = true →
      g.engine.recorded.entities = namedCharacters := h.entities
  cases stage with
  | arriving request =>
    -- A caller that looks asks nothing and changes nothing.
    refine .read ?_
    split
    · next hopen =>
      refine .pure ⟨?_, hfull⟩
      rw [hopen, hsame.symm.trans hopen]
      exact .admits request
    · next hshut =>
      have hshut := Bool.eq_false_iff.2 hshut
      refine .pure ⟨?_, hfull⟩
      rw [hshut, hsame.symm.trans hshut]
      exact .turnsAway request
  | outside request =>
    cases hready : g.engine.isReady with
    | true =>
      refine .bind (R := fun _ e' => e' = g.engine.recorded)
        (.of_ok (c.recorded.start_of_isReady hready) rfl) ?_
      rintro _ _ rfl
      refine .pure ⟨?_, hfull⟩
      rw [hsame, hready]
      exact .comesLate request
    | false =>
      -- Its start decides whether the engine is ready, and whether the caller gets past the gate.
      refine .bind ((c.start_asks (e := g.engine.recorded) hready rfl).mono (fun _ _ h => h) ?_) ?_
      · rintro fault e' ⟨hshut, hprobe, hmisses⟩
        rw [hshut]
        exact ⟨.fails request fault hprobe hmisses, fun h => absurd h Bool.false_ne_true⟩
      · rintro _ e' ⟨hopen, hfull, hpasses⟩
        refine .pure ⟨?_, fun _ => hfull⟩
        rw [hopen]
        exact .opens request hpasses
  | inside latex display =>
    -- Past the gate the engine is ready, and a conversion leaves it so.
    have hopen := hstage trivial
    rw [hopen]
    refine .bind ((c.markupFor_asks latex g.engine.recorded).mono (fun _ _ h => h) ?_) ?_
    · rintro fault e' (⟨-, hasks⟩ | ⟨source, answer, hsource, hasks⟩)
      all_goals
        rw [hasks.isReady.trans (hsame.trans hopen), hasks.asked, hasks.entities]
        refine ⟨.asksFirst latex display ?_ (fun _ h => nomatch h), fun _ => h.entities hopen⟩
      · exact .inl rfl
      · exact .inr ⟨source, answer, hsource, rfl⟩
    · rintro markup e' ⟨source, root, hsource, hasks, -⟩
      refine .pure ?_
      rw [hasks.isReady.trans (hsame.trans hopen), hasks.asked, hasks.entities]
      refine ⟨.asksFirst latex display (.inr ⟨source, _, hsource, rfl⟩) ?_,
        fun _ => h.entities hopen⟩
      rintro _ ⟨⟩
      exact ⟨markup, rfl⟩
  | halfway latex display markup =>
    have hopen := hstage trivial
    rw [hopen]
    refine .bind ((c.finish_asks latex display markup g.engine.recorded).mono
      (fun _ _ h => h) ?_) ?_
    · rintro fault e' ⟨answer, reason, hasks, -⟩
      rw [hasks.isReady.trans (hsame.trans hopen), hasks.asked, hasks.entities, hfull hopen]
      exact ⟨.asksSecond latex display markup answer (fun _ h => nomatch h), fun _ => rfl⟩
    · rintro m e' ⟨answer, t, hasks, -⟩
      refine .pure ?_
      rw [hasks.isReady.trans (hsame.trans hopen), hasks.asked, hasks.entities, hfull hopen]
      exact ⟨.asksSecond latex display markup answer (fun _ h => nomatch h), fun _ => rfl⟩

/-- A step of a caller of a sound gate is one that can happen, and the gate is sound after it. -/
theorem happens_deed (h : g.IsSound) {place : Nat} (hplace : g.callers[place]? = some stage) :
    Happens (g.deed c stage) ∧ (g.next c (.go place)).IsSound
      ∧ (g.next c (.go place)).engine.isReady = (g.deed c stage).after := by
  have hpast : stage.IsPast → g.engine.isReady = true :=
    h.callers stage (List.mem_of_getElem? hplace)
  -- The engine stays ready, and a caller gets past the gate of a ready one only.
  have hrun : ∃ r said e', g.outcome c stage = ⟨r, said, e'⟩
      ∧ Happens ⟨stage, g.engine.isReady, e'.isReady, e'.asked, r⟩
      ∧ (e'.isReady = true → e'.entities = namedCharacters) := by
    cases proceed_happens (c := c) h hpast with
    | of_ok run holds => exact ⟨_, _, _, run, holds⟩
    | of_error run fails => exact ⟨_, _, _, run, fails⟩
  obtain ⟨r, said, e', hrun, hhappens, hfull⟩ := hrun
  simp only [deed, next, hplace, hrun]
  refine ⟨hhappens, ⟨hfull, fun stage' hstage' hpast' => ?_⟩, rfl⟩
  -- The other callers stand where they stood, and the one that took a step has gone or moved.
  have hold : stage' ∈ g.callers → e'.isReady = true := fun hmem =>
    hhappens.stays (h.callers stage' hmem hpast')
  cases r with
  | error fault => exact hold (List.mem_of_mem_eraseIdx hstage')
  | ok progress =>
    cases progress with
    | ended value => exact hold (List.mem_of_mem_eraseIdx hstage')
    | moved stage'' =>
      rcases List.mem_or_eq_of_mem_set hstage' with hmem | rfl
      · exact hold hmem
      · exact hhappens.isOpen_of_isPast rfl hpast'

/-- A sound gate stays sound. -/
theorem isSound_next (h : g.IsSound) (move : Move) : (g.next c move).IsSound := by
  cases move with
  | arrive request =>
    refine ⟨h.entities, fun stage hstage hpast => ?_⟩
    rcases List.mem_append.1 hstage with hmem | hmem
    · exact h.callers stage hmem hpast
    · rw [List.mem_singleton.1 hmem] at hpast
      exact hpast.elim
  | go place =>
    cases hplace : g.callers[place]? with
    | none =>
      simp only [next, hplace]
      exact h
    | some stage => exact (happens_deed h hplace).2.1

end Gate

/-! ## Many steps -/

/-- Steps that can happen, each of them at an engine as the one before left it. -/
inductive RecordFrom : (isReady : Bool) → List Deed → Prop where
  /-- Nothing happens. -/
  | nil {isReady : Bool} : RecordFrom isReady []
  /-- A step, and those after it. -/
  | cons {isReady : Bool} {d : Deed} {later : List Deed} (before : d.before = isReady)
      (step : Happens d) (rest : RecordFrom d.after later) : RecordFrom isReady (d :: later)

namespace Gate

variable {c : Converters σ} {g : Gate σ}

/-- The steps at a sound gate are such that can happen. -/
theorem recordFrom_deeds (h : g.IsSound) (moves : List Move) :
    RecordFrom g.engine.isReady (g.deeds c moves) := by
  induction moves generalizing g with
  | nil => exact .nil
  | cons move rest ih =>
    have hrest := ih (isSound_next (c := c) h move)
    cases move with
    | arrive request => exact hrest
    | go place =>
      cases hplace : g.callers[place]? with
      | none =>
        simp only [deeds, deed?, next, hplace] at hrest ⊢
        exact hrest
      | some stage =>
        obtain ⟨hhappens, -, hafter⟩ := happens_deed (c := c) h hplace
        rw [hafter] at hrest
        simp only [deeds, deed?, hplace]
        exact .cons rfl hhappens hrest

end Gate

namespace RecordFrom

variable {isReady : Bool} {deeds earlier later : List Deed} {d : Deed}

theorem happens (h : RecordFrom isReady deeds) : ∀ d ∈ deeds, Happens d := by
  induction h with
  | nil => exact fun _ h => absurd h List.not_mem_nil
  | cons _ step _ ih => exact List.forall_mem_cons.2 ⟨step, ih⟩

/-- An engine that is ready stays so. -/
theorem all_ready (h : RecordFrom true deeds) : ∀ d ∈ deeds, d.before = true := by
  induction deeds with
  | nil => exact fun _ h => absurd h List.not_mem_nil
  | cons d later ih =>
    obtain _ | ⟨hbefore, step, rest⟩ := h
    exact List.forall_mem_cons.2 ⟨hbefore, ih (step.stays hbefore ▸ rest)⟩

/-- What follows a step finds the engine as the step left it. -/
theorem of_append_cons (h : RecordFrom isReady (earlier ++ d :: later)) :
    RecordFrom d.after later := by
  induction earlier generalizing isReady with
  | nil =>
    obtain _ | ⟨-, -, hrest⟩ := h
    exact hrest
  | cons o rest ih =>
    obtain _ | ⟨-, -, hrest⟩ := h
    exact ih hrest

/-- An engine that is ready and was not at first has been made so. -/
theorem exists_opens (h : RecordFrom false (earlier ++ d :: later)) (hd : d.before = true) :
    ∃ o ∈ earlier, o.Opens := by
  induction earlier with
  | nil =>
    obtain _ | ⟨hbefore, -, -⟩ := h
    exact absurd (hbefore.symm.trans hd) Bool.false_ne_true
  | cons o rest ih =>
    obtain _ | ⟨hbefore, -, hrest⟩ := h
    cases hafter : o.after with
    | true => exact ⟨o, List.mem_cons_self, hbefore, hafter⟩
    | false =>
      obtain ⟨o', ho', hopens⟩ := ih (hafter ▸ hrest)
      exact ⟨o', List.mem_cons_of_mem _ ho', hopens⟩

end RecordFrom

/-! ## Guarded runs -/

/-- What holds of the steps at a gate of which the engine has not started at first. -/
structure IsGuarded (deeds : List Deed) : Prop where
  /-- The engine is not ready at first. -/
  starts : ∀ d later, deeds = d :: later → d.before = false
  /-- Nothing but the steps changes whether it is. -/
  follows : ∀ earlier d d' later, deeds = earlier ++ d :: d' :: later → d'.before = d.after
  /-- An engine that is ready stays so. -/
  stays : ∀ d ∈ deeds, d.before = true → d.after = true
  /-- It is made ready by somebody at the lock whose start went through. -/
  opens : ∀ d ∈ deeds, d.Opens →
    (∃ request, d.stage = .outside request) ∧ Converters.Passes d.asked
  /-- An engine that is ready has been made so before. -/
  opened : ∀ earlier d later, deeds = earlier ++ d :: later → d.before = true →
    ∃ o ∈ earlier, o.Opens
  /-- Once it is, those who come to the lock or wait there start it no more. -/
  late : ∀ earlier o later, deeds = earlier ++ o :: later → o.Opens →
    ∀ d ∈ later, d.before = true ∧ ∀ request, d.stage = .outside request →
      d.asked = [] ∧ d.outcome = .ok request.admitted
  /-- A caller that finds it ready is let in, and one that finds it not ready goes to the lock. -/
  looks : ∀ d ∈ deeds, ∀ request, d.stage = .arriving request →
    d.asked = [] ∧ d.after = d.before
      ∧ d.outcome = .ok (if d.before then request.admitted else .moved (.outside request))
  /-- At the lock of an engine that is not ready everybody tries to start it, and fails if the
      formula for that does not go through. -/
  tries : ∀ d ∈ deeds, ∀ request, d.stage = .outside request → d.before = false →
    Converters.IsProbe d.asked ∧ (d.after = true ↔ Converters.Passes d.asked)
      ∧ (d.after = true → d.outcome = .ok request.admitted)
      ∧ (d.after = false → ∃ fault, d.outcome = .error fault)
  /-- The first step is asked about the formula for that at the lock of an engine that is not
      ready, and about the formula of a caller when the engine is ready. -/
  asksFirst : ∀ d ∈ deeds, ∀ source answer, .markup source answer ∈ d.asked →
    (∃ request, d.stage = .outside request) ∧ d.before = false ∧ source = Converters.probe ∨
      ∃ latex display checked, d.stage = .inside latex display ∧ d.before = true
        ∧ Converters.sourceOf latex = .ok checked ∧ source = Converters.prepared checked
  /-- The second step is given all named characters. -/
  asksSecond : ∀ d ∈ deeds, ∀ markup entities answer, .office markup entities answer ∈ d.asked →
    entities = namedCharacters

namespace Happens

variable {d : Deed}

theorem opens_lock (h : Happens d) (hopens : d.Opens) :
    (∃ request, d.stage = .outside request) ∧ Converters.Passes d.asked := by
  obtain ⟨hbefore, hafter⟩ := hopens
  cases h with
  | opens request passes => exact ⟨⟨request, rfl⟩, passes⟩
  | turnsAway request => exact absurd hafter Bool.false_ne_true
  | fails request fault probes misses => exact absurd hafter Bool.false_ne_true
  | _ => exact absurd hbefore.symm Bool.false_ne_true

theorem looks (h : Happens d) {request : Request} (hstage : d.stage = .arriving request) :
    d.asked = [] ∧ d.after = d.before
      ∧ d.outcome = .ok (if d.before then request.admitted else .moved (.outside request)) := by
  cases h with
  | admits request' =>
    cases hstage
    exact ⟨rfl, rfl, rfl⟩
  | turnsAway request' =>
    cases hstage
    exact ⟨rfl, rfl, rfl⟩
  | _ => cases hstage

theorem late (h : Happens d) {request : Request} (hstage : d.stage = .outside request)
    (hbefore : d.before = true) : d.asked = [] ∧ d.outcome = .ok request.admitted := by
  cases h with
  | comesLate request' =>
    cases hstage
    exact ⟨rfl, rfl⟩
  | opens request' passes => exact absurd hbefore Bool.false_ne_true
  | fails request' fault probes misses => exact absurd hbefore Bool.false_ne_true
  | _ => cases hstage

theorem tries (h : Happens d) {request : Request} (hstage : d.stage = .outside request)
    (hbefore : d.before = false) :
    Converters.IsProbe d.asked ∧ (d.after = true ↔ Converters.Passes d.asked)
      ∧ (d.after = true → d.outcome = .ok request.admitted)
      ∧ (d.after = false → ∃ fault, d.outcome = .error fault) := by
  cases h with
  | comesLate request' => exact absurd hbefore.symm Bool.false_ne_true
  | opens request' passes =>
    cases hstage
    exact ⟨passes.isProbe, ⟨fun _ => passes, fun _ => rfl⟩, fun _ => rfl,
      fun h => absurd h.symm Bool.false_ne_true⟩
  | fails request' fault probes misses =>
    exact ⟨probes, ⟨fun h => absurd h Bool.false_ne_true, fun h => absurd h misses⟩,
      fun h => absurd h Bool.false_ne_true, fun _ => ⟨fault, rfl⟩⟩
  | _ => cases hstage

theorem asksFirst_about (h : Happens d) {source : String} {answer : Answer}
    (hasked : .markup source answer ∈ d.asked) :
    (∃ request, d.stage = .outside request) ∧ d.before = false ∧ source = Converters.probe ∨
      ∃ latex display checked, d.stage = .inside latex display ∧ d.before = true
        ∧ Converters.sourceOf latex = .ok checked ∧ source = Converters.prepared checked := by
  cases h with
  | opens request passes =>
    exact .inl ⟨⟨request, rfl⟩, rfl, passes.isProbe.source_eq hasked⟩
  | fails request fault probes misses =>
    exact .inl ⟨⟨request, rfl⟩, rfl, probes.source_eq hasked⟩
  | asksFirst latex display questions moves =>
    rcases questions with rfl | ⟨checked, answer', hchecked, rfl⟩
    · cases hasked
    · cases List.mem_singleton.1 hasked
      exact .inr ⟨latex, display, checked, rfl, rfl, hchecked, rfl⟩
  | asksSecond latex display markup answer' ends => cases List.mem_singleton.1 hasked
  | _ => cases hasked

theorem asksSecond_with (h : Happens d) {markup : String} {entities : Entities} {answer : Answer}
    (hasked : .office markup entities answer ∈ d.asked) : entities = namedCharacters := by
  cases h with
  | opens request passes => exact passes.isProbe.entities_eq hasked
  | fails request fault probes misses => exact probes.entities_eq hasked
  | asksFirst latex display questions moves =>
    rcases questions with rfl | ⟨checked, answer', hchecked, rfl⟩
    · cases hasked
    · cases List.mem_singleton.1 hasked
  | asksSecond latex display markup answer' ends =>
    cases List.mem_singleton.1 hasked
    rfl
  | _ => cases hasked

end Happens

/-- Steps that can happen, from an engine that is not ready, are guarded. -/
theorem RecordFrom.isGuarded {deeds : List Deed} (h : RecordFrom false deeds) :
    IsGuarded deeds where
  starts := by
    rintro d later rfl
    obtain _ | ⟨hbefore, -, -⟩ := h
    exact hbefore
  follows := by
    rintro earlier d d' later rfl
    obtain _ | ⟨hbefore, -, -⟩ := h.of_append_cons
    exact hbefore
  stays := fun d hd => (h.happens d hd).stays
  opens := fun d hd => (h.happens d hd).opens_lock
  opened := by
    rintro earlier d later rfl
    exact h.exists_opens
  late := by
    rintro earlier o later rfl ⟨-, hafter⟩ d hd
    have hbefore := (hafter ▸ h.of_append_cons).all_ready d hd
    exact ⟨hbefore, fun request hstage =>
      (h.of_append_cons.happens d hd).late hstage hbefore⟩
  looks := fun d hd _ => (h.happens d hd).looks
  tries := fun d hd _ => (h.happens d hd).tries
  asksFirst := fun d hd _ _ => (h.happens d hd).asksFirst_about
  asksSecond := fun d hd _ _ _ => (h.happens d hd).asksSecond_with

end Manuscript.Formula
