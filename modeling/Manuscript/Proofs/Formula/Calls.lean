import Manuscript.Proofs.Formula.Gate

/-!
# Calls as runs of a gate

A call that nobody interrupts takes all of its steps at the gate at once. So what the
engine does for one call (`Converters.ready`, `Converters.convert`) is what it does at the
gate, and so is what it does for several callers that all look before any of them enters
(`Converters.readyFor`).

* `run_rest`: a caller that stands alone at the gate;
* `run_calls`, `run_gathering`: calls one after the other, and at once;
* `isGuarded_deeds`: what holds of every run of a gate, of which such calls are runs.
-/

namespace Manuscript.Formula

open Manuscript.Document Manuscript.Work

variable {σ : Type}

/-! ## Answers -/

/-- What comes of a call. -/
abbrev Result : Type := Except Fault (Option MathObject)

/-- The answer to a call, if a step ends it. -/
def Deed.answer? (d : Deed) : Option Result :=
  match d.outcome with
  | .ok (.moved _) => none
  | .ok (.ended value) => some (.ok value)
  | .error fault => some (.error fault)

/-- The answers that some steps give. -/
def answers (deeds : List Deed) : List Result := deeds.filterMap Deed.answer?

theorem answers_append (deeds deeds' : List Deed) :
    answers (deeds ++ deeds') = answers deeds ++ answers deeds' :=
  List.filterMap_append

/-- What comes of several calls for those who made them together: the first fault is the fault of
    all. -/
def together : List Result → Except Fault Unit
  | [] => .ok ()
  | r :: rest => r.bind fun _ => together rest

theorem together_replicate (n : Nat) : together (.replicate n (.ok none)) = .ok () := by
  induction n with
  | zero => rfl
  | succ n ih => exact ih

namespace Converters

variable (c : Converters σ)

/-- A call. -/
def call : Request → Work (Engine σ) Fault (Option MathObject)
  | .ready => do
    c.ready
    return none
  | .convert latex display => do
    return some (← c.convert latex display)

/-- Calls, one after the other, each to the engine that the one before leaves. -/
def callAll : List Request → Engine σ → List Result × Engine σ
  | [], e => ([], e)
  | request :: rest, e =>
    let o := c.call request e
    let (results, e') := callAll rest o.state
    (o.result :: results, e')

/-- What a caller that the gate lets in still has to do. -/
def served : Request → Work (Engine σ) Fault (Option MathObject)
  | .ready => return none
  | .convert latex display => do return some (← c.convertNow latex display)

/-- The rest of a call from where the caller stands. -/
def rest : Stage → Work (Engine σ) Fault (Option MathObject)
  | .arriving request => c.call request
  | .outside request => do
    c.start
    c.served request
  | .inside latex display => do return some (← c.convertNow latex display)
  | .halfway latex display markup => do return some (← c.finish latex display markup)

/-- The rest of a call after a step. -/
def restAfter : Progress → Work (Engine σ) Fault (Option MathObject)
  | .moved stage => c.rest stage
  | .ended value => return value

variable {c} {e : Engine σ}

theorem ready_of_isReady (he : e.isReady = true) : c.ready e = ⟨.ok (), [], e⟩ := by
  rw [ready, readyFor, bind_ok (w := (Work.state : Work (Engine σ) Fault _)) rfl, he]
  rfl

/-- An engine that is not ready is started for a single caller. -/
theorem ready_of_not_isReady (he : e.isReady = false) : c.ready e = c.start e := by
  rw [ready, readyFor, bind_ok (w := (Work.state : Work (Engine σ) Fault _)) rfl, he]
  rcases hrun : c.start e with ⟨_ | ⟨⟩, said, e'⟩
  · simp [startFor, hrun, Except.bind]
  · simp [startFor, hrun, Except.bind]

theorem call_of_isReady (he : e.isReady = true) (request : Request) :
    c.call request e = c.served request e := by
  cases request with
  | ready => exact bind_ok (ready_of_isReady he)
  | convert latex display =>
    rw [call, convert, bind_assoc]
    exact bind_ok (ready_of_isReady he)

/-- A call to an engine that is not ready starts it first. -/
theorem call_of_not_isReady (he : e.isReady = false) (request : Request) :
    c.call request e = (c.start >>= fun _ => c.served request) e := by
  cases request with
  | ready => exact bind_apply_congr (ready_of_not_isReady he)
  | convert latex display =>
    rw [call, convert, bind_assoc]
    exact bind_apply_congr (ready_of_not_isReady he)

variable (c)

theorem restAfter_admitted (request : Request) :
    c.restAfter request.admitted = c.served request := by
  cases request <;> rfl

/-- A step, and then the rest. -/
theorem rest_eq (stage : Stage) : c.rest stage = c.proceed stage >>= c.restAfter := by
  cases stage with
  | arriving request =>
    funext e
    rw [rest, proceed, bind_assoc, bind_ok (w := (Work.state : Work (Engine σ) Fault _)) rfl]
    cases he : e.isReady with
    | true =>
      rw [call_of_isReady he, ← restAfter_admitted]
      rfl
    | false =>
      rw [call_of_not_isReady he]
      rfl
  | outside request =>
    simp only [rest, proceed, bind_assoc, pure_bind, restAfter_admitted]
  | inside latex display =>
    simp only [rest, proceed, bind_assoc, pure_bind, restAfter, convertNow_eq]
  | halfway latex display markup =>
    simp only [rest, proceed, bind_assoc, pure_bind, restAfter]

theorem proceed_follows (stage : Stage) :
    Follows Engine.Records (c.recorded.proceed stage) (c.proceed stage) := by
  cases stage with
  | arriving request =>
    refine .read ?_
    rintro e _ rfl
    have hready : e.unrecorded.isReady = e.isReady := rfl
    rw [hready]
    split
    · exact .pure _
    · exact .pure _
  | outside request => exact .bind c.start_follows fun _ => .pure _
  | inside latex display => exact .bind (c.markupFor_follows latex) fun _ => .pure _
  | halfway latex display markup =>
    exact .bind (c.finish_follows latex display markup) fun _ => .pure _

end Converters

/-- The most steps that a caller still takes. -/
def Stage.steps : Stage → Nat
  | arriving _ => 4
  | outside _ => 3
  | inside .. => 2
  | halfway .. => 1

theorem Stage.steps_pos (stage : Stage) : 0 < stage.steps := by
  cases stage <;> exact Nat.succ_pos _

theorem Request.steps_of_admitted {request : Request} {stage : Stage}
    (h : request.admitted = .moved stage) : stage.steps = 2 := by
  cases request with
  | ready => cases h
  | convert latex display =>
    cases h
    rfl

theorem Converters.proceed_steps (c : Converters σ) (stage : Stage) :
    Gives (c.proceed stage) fun progress =>
      ∀ stage', progress = .moved stage' → stage'.steps < stage.steps := by
  have hany {α : Type} (w : Work (Engine σ) Fault α) : Gives w fun _ => True :=
    .of_forall w fun _ => trivial
  cases stage with
  | arriving request =>
    refine (hany _).bind fun e _ => ?_
    split
    · refine .pure fun stage' h => ?_
      rw [Request.steps_of_admitted h]
      exact Nat.lt_add_of_pos_right (Nat.succ_pos 1)
    · refine .pure ?_
      rintro _ ⟨⟩
      exact Nat.lt_succ_self _
  | outside request =>
    exact (hany _).bind fun _ _ => .pure fun stage' h => by
      rw [Request.steps_of_admitted h]
      exact Nat.lt_succ_self _
  | inside latex display =>
    refine (hany _).bind fun markup _ => .pure ?_
    rintro _ ⟨⟩
    exact Nat.lt_succ_self _
  | halfway latex display markup =>
    exact (hany _).bind fun _ _ => .pure fun stage' h => nomatch h

/-! ## A caller alone -/

namespace Gate

variable (c : Converters σ) (g : Gate σ)

theorem run_append (moves moves' : List Move) :
    g.run c (moves ++ moves') = (g.run c moves).run c moves' :=
  List.foldl_append

theorem deeds_append (moves moves' : List Move) :
    g.deeds c (moves ++ moves') = g.deeds c moves ++ (g.run c moves).deeds c moves' := by
  induction moves generalizing g with
  | nil => rfl
  | cons move rest ih =>
    rw [List.cons_append, deeds, ih, ← List.append_assoc]
    rfl

variable {c} {e : Engine σ} {others : List Stage}

/-- The answers that a step gives. -/
def given : Except Fault Progress → List Result
  | .ok (.moved _) => []
  | .ok (.ended value) => [.ok value]
  | .error fault => [.error fault]

/-- A caller's step does to the engine what such a step does, and then the run goes on. -/
theorem run_go {callers : List Stage} {place : Nat} {stage : Stage}
    (hplace : callers[place]? = some stage) {r : Except Fault Progress} {said : List Log.Notice}
    {e' : Engine σ} (h : c.proceed stage e = ⟨r, said, e'⟩) (moves : List Move) :
    (⟨e, callers⟩ : Gate σ).run c (.go place :: moves)
        = (⟨e', left r place callers⟩ : Gate σ).run c moves
      ∧ answers ((⟨e, callers⟩ : Gate σ).deeds c (.go place :: moves))
        = given r ++ answers ((⟨e', left r place callers⟩ : Gate σ).deeds c moves) := by
  obtain ⟨hresult, -, hstate⟩ := c.proceed_follows stage _ e e.records_recorded
  rw [h] at hresult hstate
  have hresult : ((⟨e, callers⟩ : Gate σ).outcome c stage).result = r := hresult
  have hstate : ((⟨e, callers⟩ : Gate σ).outcome c stage).state.unrecorded = e' := hstate
  have hnext : (⟨e, callers⟩ : Gate σ).next c (.go place) = ⟨e', left r place callers⟩ := by
    simp only [next, hplace, hresult, hstate]
  have hgiven : answers ((⟨e, callers⟩ : Gate σ).deed? c (.go place)).toList = given r := by
    simp only [deed?, deed, hplace, hresult, Option.map_some, Option.toList_some]
    rcases r with fault | ⟨stage'⟩ | ⟨value⟩ <;> rfl
  rw [run, List.foldl_cons, hnext, deeds, hnext, answers_append, hgiven]
  exact ⟨rfl, rfl⟩

theorem run_nobody (n : Nat) :
    (⟨e, []⟩ : Gate σ).run c (List.replicate n (.go 0)) = ⟨e, []⟩
      ∧ (⟨e, []⟩ : Gate σ).deeds c (List.replicate n (.go 0)) = [] := by
  induction n with
  | zero => exact ⟨rfl, rfl⟩
  | succ n ih => exact ih

/-- A caller alone at the gate comes to what the rest of its call comes to. -/
theorem run_rest {n : Nat} {stage : Stage} (h : stage.steps ≤ n) :
    (⟨e, [stage]⟩ : Gate σ).run c (List.replicate n (.go 0)) = ⟨(c.rest stage e).state, []⟩
      ∧ answers ((⟨e, [stage]⟩ : Gate σ).deeds c (List.replicate n (.go 0)))
          = [(c.rest stage e).result] := by
  induction n generalizing stage e with
  | zero => exact absurd h (Nat.not_le.2 stage.steps_pos)
  | succ n ih =>
    rw [List.replicate_succ, c.rest_eq]
    rcases hrun : c.proceed stage e with ⟨fault | progress, said, e'⟩
    -- The caller takes its step. Then it has gone, or stands nearer to the end of its call.
    all_goals
      obtain ⟨hstep, hgiven⟩ :=
        run_go (show [stage][0]? = some stage from rfl) hrun (.replicate n (.go 0))
      rw [hstep, hgiven]
    · obtain ⟨hrest, hnone⟩ := run_nobody (c := c) (e := e') n
      rw [bind_error hrun]
      exact ⟨hrest, congrArg ([.error fault] ++ answers ·) hnone⟩
    · rw [bind_ok hrun]
      cases progress with
      | ended value =>
        obtain ⟨hrest, hnone⟩ := run_nobody (c := c) (e := e') n
        exact ⟨hrest, congrArg ([.ok value] ++ answers ·) hnone⟩
      | moved stage' =>
        have hfewer := (c.proceed_steps stage).of_run hrun stage' rfl
        exact ih (Nat.le_of_lt_succ (Nat.lt_of_lt_of_le hfewer h))

end Gate

/-! ## Calls one after the other, and at once -/

/-- Somebody calls and is not interrupted. -/
def Request.moves (request : Request) : List Move := .arrive request :: .replicate 4 (.go 0)

/-- Some callers look, from the last to the first. -/
def looks : (callers : Nat) → List Move
  | 0 => []
  | n + 1 => .go n :: looks n

/-- Some callers want the engine to be ready, and all of them look before one enters. -/
def gathering (callers : Nat) : List Move :=
  .replicate callers (.arrive .ready) ++ looks callers ++ .replicate callers (.go 0)

namespace Gate

variable {c : Converters σ} {e : Engine σ}

/-- Calls that nobody interrupts come to what they come to one after the other. -/
theorem run_calls (requests : List Request) :
    (⟨e, []⟩ : Gate σ).run c (requests.flatMap Request.moves) = ⟨(c.callAll requests e).2, []⟩
      ∧ answers ((⟨e, []⟩ : Gate σ).deeds c (requests.flatMap Request.moves))
          = (c.callAll requests e).1 := by
  induction requests generalizing e with
  | nil => exact ⟨rfl, rfl⟩
  | cons request rest ih =>
    obtain ⟨hone, hanswer⟩ : (⟨e, []⟩ : Gate σ).run c request.moves = ⟨(c.call request e).state, []⟩
        ∧ answers ((⟨e, []⟩ : Gate σ).deeds c request.moves) = [(c.call request e).result] :=
      run_rest (show (Stage.arriving request).steps ≤ 4 from Nat.le_refl 4)
    obtain ⟨hrest, hanswers⟩ := ih (e := (c.call request e).state)
    rw [List.flatMap_cons, run_append, deeds_append, answers_append, hone, hanswer, hrest, hanswers]
    exact ⟨rfl, rfl⟩

/-- The last of some callers that are alike, with others behind it. -/
theorem getElem?_last (a : Stage) (n : Nat) (others : List Stage) :
    (List.replicate (n + 1) a ++ others)[n]? = some a := by
  rw [List.getElem?_append_left (by simp), List.getElem?_replicate_of_lt (Nat.lt_succ_self n)]

/-- Callers that find the engine ready have their answers at once. -/
theorem run_looks_of_isReady (he : e.isReady = true) (n : Nat) (others : List Stage) :
    (⟨e, .replicate n (.arriving .ready) ++ others⟩ : Gate σ).run c (looks n) = ⟨e, others⟩
      ∧ answers ((⟨e, .replicate n (.arriving .ready) ++ others⟩ : Gate σ).deeds c (looks n))
          = .replicate n (.ok none) := by
  induction n with
  | zero => exact ⟨rfl, rfl⟩
  | succ n ih =>
    have hlook : c.proceed (.arriving .ready) e = ⟨.ok (.ended none), [], e⟩ := by
      rw [Converters.proceed, bind_ok (w := (Work.state : Work (Engine σ) Fault _)) rfl, he]
      rfl
    obtain ⟨hstep, hgiven⟩ := run_go (getElem?_last (.arriving .ready) n others) hlook (looks n)
    have hleft : left (.ok (.ended none)) n (.replicate (n + 1) (.arriving .ready) ++ others)
        = .replicate n (.arriving .ready) ++ others := by
      rw [left, List.replicate_succ', List.append_assoc,
        List.eraseIdx_append_of_length_le (by simp)]
      simp
    rw [looks, hstep, hgiven, hleft, ih.1, ih.2]
    exact ⟨rfl, rfl⟩

/-- Callers that find the engine not ready all go to the lock. -/
theorem run_looks_of_not_isReady (he : e.isReady = false) (n : Nat) (others : List Stage) :
    (⟨e, .replicate n (.arriving .ready) ++ others⟩ : Gate σ).run c (looks n)
        = ⟨e, .replicate n (.outside .ready) ++ others⟩
      ∧ answers ((⟨e, .replicate n (.arriving .ready) ++ others⟩ : Gate σ).deeds c (looks n))
          = [] := by
  induction n generalizing others with
  | zero => exact ⟨rfl, rfl⟩
  | succ n ih =>
    have hlook : c.proceed (.arriving .ready) e = ⟨.ok (.moved (.outside .ready)), [], e⟩ := by
      rw [Converters.proceed, bind_ok (w := (Work.state : Work (Engine σ) Fault _)) rfl, he]
      rfl
    obtain ⟨hstep, hgiven⟩ := run_go (getElem?_last (.arriving .ready) n others) hlook (looks n)
    have hleft : left (.ok (.moved (.outside .ready))) n
          (.replicate (n + 1) (.arriving .ready) ++ others)
        = .replicate n (.arriving .ready) ++ .outside .ready :: others := by
      rw [left, List.replicate_succ', List.append_assoc, List.set_append_right _ _ (by simp)]
      simp
    obtain ⟨hrest, hnone⟩ := ih (.outside .ready :: others)
    rw [looks, hstep, hgiven, hleft, hrest, hnone, List.replicate_succ', List.append_assoc]
    exact ⟨rfl, rfl⟩

/-- Callers at the lock enter one after the other. -/
theorem run_enter (n : Nat) :
    (⟨e, .replicate n (.outside .ready)⟩ : Gate σ).run c (.replicate n (.go 0))
        = ⟨(c.startFor n e).state, []⟩
      ∧ together (answers ((⟨e, .replicate n (.outside .ready)⟩ : Gate σ).deeds c
          (.replicate n (.go 0)))) = (c.startFor n e).result := by
  induction n generalizing e with
  | zero => exact ⟨rfl, rfl⟩
  | succ n ih =>
    have hplace : (List.replicate (n + 1) (Stage.outside .ready))[0]? = some (.outside .ready) :=
      rfl
    rcases hstart : c.start e with ⟨fault | ⟨⟩, said, e'⟩
    -- Whether the first of them starts the engine or not, the others enter after it.
    · have henter : c.proceed (.outside .ready) e = ⟨.error fault, said, e'⟩ := bind_error hstart
      have hfor : c.startFor (n + 1) e = ⟨.error fault, said ++ (c.startFor n e').notices,
          (c.startFor n e').state⟩ := by
        simp only [Converters.startFor, hstart]
        rfl
      obtain ⟨hstep, hgiven⟩ := run_go hplace henter (.replicate n (.go 0))
      rw [List.replicate_succ (a := Move.go 0), hstep, hgiven, hfor]
      exact ⟨ih.1, rfl⟩
    · have henter : c.proceed (.outside .ready) e = ⟨.ok (.ended none), said ++ [], e'⟩ :=
        bind_ok hstart
      have hfor : c.startFor (n + 1) e = ⟨(c.startFor n e').result,
          said ++ (c.startFor n e').notices, (c.startFor n e').state⟩ := by
        simp only [Converters.startFor, hstart]
        rfl
      obtain ⟨hstep, hgiven⟩ := run_go hplace henter (.replicate n (.go 0))
      rw [List.replicate_succ (a := Move.go 0), hstep, hgiven, hfor]
      exact ih

theorem run_arrivals (n : Nat) (callers : List Stage) :
    (⟨e, callers⟩ : Gate σ).run c (.replicate n (.arrive .ready))
        = ⟨e, callers ++ .replicate n (.arriving .ready)⟩
      ∧ (⟨e, callers⟩ : Gate σ).deeds c (.replicate n (.arrive .ready)) = [] := by
  induction n generalizing callers with
  | zero => exact ⟨congrArg (Gate.mk e) (List.append_nil callers).symm, rfl⟩
  | succ n ih =>
    obtain ⟨hrest, hnone⟩ := ih (callers ++ [.arriving .ready])
    rw [List.append_assoc] at hrest
    exact ⟨hrest, hnone⟩

/-- Callers that make the engine ready together come to what they come to at the gate. -/
theorem run_gathering (n : Nat) :
    (⟨e, []⟩ : Gate σ).run c (gathering n) = ⟨(c.readyFor n e).state, []⟩
      ∧ together (answers ((⟨e, []⟩ : Gate σ).deeds c (gathering n)))
        = (c.readyFor n e).result := by
  obtain ⟨harrive, hnone⟩ := run_arrivals (c := c) (e := e) n []
  have hread : c.readyFor n e
      = (if e.isReady then pure () else c.startFor n : Work (Engine σ) Fault Unit) e := by
    rw [Converters.readyFor, bind_ok (w := (Work.state : Work (Engine σ) Fault _)) rfl]
    rfl
  rw [gathering, run_append, run_append, deeds_append, deeds_append, answers_append,
    answers_append, run_append, harrive, hnone, hread]
  cases he : e.isReady with
  | true =>
    obtain ⟨hlooks, hgiven⟩ := run_looks_of_isReady (c := c) he n []
    rw [List.append_nil] at hlooks hgiven
    obtain ⟨hrest, hnobody⟩ := run_nobody (c := c) (e := e) n
    rw [List.nil_append, hlooks, hgiven, hrest, hnobody, answers, List.filterMap_nil,
      List.nil_append, List.append_nil]
    exact ⟨rfl, together_replicate n⟩
  | false =>
    obtain ⟨hlooks, hgiven⟩ := run_looks_of_not_isReady (c := c) he n []
    rw [List.append_nil, List.append_nil] at hlooks
    rw [List.append_nil] at hgiven
    rw [List.nil_append, hlooks, hgiven]
    exact run_enter n

end Gate

/-- Every run at the gate of an engine that has not started is guarded. Calls one after the other,
    and callers that make an engine ready together, are runs at its gate. -/
theorem isGuarded_deeds (c : Converters σ) :
    (∀ (s : σ) (moves : List Move), IsGuarded ((⟨{ steps := s }, []⟩ : Gate σ).deeds c moves)) ∧
    ∀ e : Engine σ,
      (∀ requests : List Request,
        (⟨e, []⟩ : Gate σ).run c (requests.flatMap Request.moves) = ⟨(c.callAll requests e).2, []⟩
          ∧ answers ((⟨e, []⟩ : Gate σ).deeds c (requests.flatMap Request.moves))
            = (c.callAll requests e).1) ∧
      ∀ n : Nat, (⟨e, []⟩ : Gate σ).run c (gathering n) = ⟨(c.readyFor n e).state, []⟩
        ∧ together (answers ((⟨e, []⟩ : Gate σ).deeds c (gathering n)))
          = (c.readyFor n e).result :=
  ⟨fun s moves => (Gate.recordFrom_deeds (Gate.isSound_fresh s) moves).isGuarded,
    fun _ => ⟨Gate.run_calls, Gate.run_gathering⟩⟩

end Manuscript.Formula
