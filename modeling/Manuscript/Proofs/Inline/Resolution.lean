import Manuscript.Inline.Format
import Manuscript.Proofs.Work

/-!
# Formulas resolved

What becomes of the formulas in inline source. Each is one call of the bridge, and its
run shows what the bridge answers: the formula converted, or the formula as it is
written. As a bridge may change with every call, an answer is one after other calls
(`Bridge.answer`); no run depends on more than the answer to its own call.

* `format_eq`: the runs of a text are its segments, with the formulas resolved in the
  order in which they are read.
-/

namespace Manuscript.Formula

open Manuscript.Document

/-- A formula that a bridge is asked for, and whether it is set on its own. -/
abbrev Call : Type := String × Bool

/-- A formula is converted or rejected, which is all that inline source reckons with. -/
def IsAnswered (r : Except Fault MathObject) : Prop :=
  (∃ m, r = .ok m) ∨ ∃ latex reason, r = .error (.rejected latex reason)

namespace Bridge

variable {σ : Type} (b : Bridge σ) (s : σ)

/-- The state after some calls. -/
def after (calls : List Call) : σ := calls.foldl (fun s c => (b.convert c.1 c.2 s).state) s

/-- What is answered to a call after other calls. -/
def answer (calls : List Call) (c : Call) : Except Fault MathObject :=
  (b.convert c.1 c.2 (b.after s calls)).result

/-- Every call is answered by a formula or by a rejection. -/
def IsTame : Prop :=
  ∀ calls c, (∃ m, b.answer s calls c = .ok m) ∨
    ∃ latex reason, b.answer s calls c = .error (.rejected latex reason)

/-- Two bridges answer by the same formula, or both reject, except for some calls. -/
def AgreeBut {τ : Type} (F : Call → Prop) (b' : Bridge τ) (s' : τ) : Prop :=
  ∀ calls c, ¬ F c → (b.answer s calls c).toOption = (b'.answer s' calls c).toOption

theorem after_concat (calls : List Call) (c : Call) :
    b.after s (calls ++ [c]) = (b.convert c.1 c.2 (b.after s calls)).state := by
  rw [after, List.foldl_append]
  rfl

end Bridge

end Manuscript.Formula

namespace Manuscript.Inline

open Manuscript.Document Manuscript.Formula Manuscript.Style

/-! ## Calls -/

/-- The call for a formula. -/
def Segment.call (s : Segment) : Call := (formulaOf s, s.kind == .displayMath)

/-- The calls for the formulas among some segments. -/
def Segment.calls (segs : List Segment) : List Call :=
  (segs.filter fun s => s.kind.isMath).map Segment.call

theorem Segment.calls_nil : Segment.calls [] = [] := rfl

theorem Segment.calls_append (a b : List Segment) :
    Segment.calls (a ++ b) = Segment.calls a ++ Segment.calls b := by
  rw [Segment.calls, List.filter_append, List.map_append]
  rfl

theorem Segment.calls_cons (s : Segment) (rest : List Segment) :
    Segment.calls (s :: rest) = Segment.calls [s] ++ Segment.calls rest :=
  Segment.calls_append [s] rest

/-- What a formula shows after an answer. -/
def shown (config : Config) (s : Segment) : Except Formula.Fault MathObject → Content
  | .ok m => .math m
  | .error _ => .styled (fallbackText config s)

/-- The run of a segment, if an answer is given to the call for it. -/
def runOf (config : Config) (s : Segment) (a : Except Formula.Fault MathObject) : Run :=
  ⟨s.kind, String.ofList s.raw,
    if s.kind.isMath then shown config s a else .styled (styledText config s)⟩

/-- The runs of segments, if answers are given to the calls for the formulas among them,
    after some calls. -/
def resolve (answer : List Call → Call → Except Formula.Fault MathObject) (config : Config) :
    (calls : List Call) → List Segment → List Run
  | _, [] => []
  | calls, s :: rest =>
    runOf config s (answer calls s.call) :: resolve answer config (calls ++ Segment.calls [s]) rest

/-! ## Formatting -/

section

variable {σ : Type} {b : Bridge σ} {s : σ}

/-- A formula is asked for once, and shows the answer. -/
theorem formulaContent_eq (config : Config) {calls : List Call} {seg : Segment}
    (h : IsAnswered (b.answer s calls seg.call)) :
    ∃ said, formulaContent b config seg (b.after s calls)
      = ⟨.ok (shown config seg (b.answer s calls seg.call)), said,
          b.after s (calls ++ [seg.call])⟩ := by
  rw [b.after_concat]
  have ha : b.answer s calls seg.call
      = (b.convert (formulaOf seg) (seg.kind == .displayMath) (b.after s calls)).result := rfl
  rcases hc : b.convert (formulaOf seg) (seg.kind == .displayMath) (b.after s calls)
    with ⟨result, said, s'⟩
  rw [hc] at ha
  have hs : (b.convert seg.call.1 seg.call.2 (b.after s calls)).state = s' :=
    congrArg Outcome.state hc
  rw [hs]
  rcases h with ⟨m, hm⟩ | ⟨latex, reason, hr⟩
  · obtain rfl : result = .ok m := ha.symm.trans hm
    rw [hm]
    simp only [formulaContent, bind, Work.andThen, Work.tell, Work.onFault, hc]
    exact ⟨_, rfl⟩
  · obtain rfl : result = .error (.rejected latex reason) := ha.symm.trans hr
    rw [hr]
    simp only [formulaContent, bind, Work.andThen, Work.tell, Work.onFault, hc]
    exact ⟨_, rfl⟩

/-- A formula that is neither converted nor rejected shows nothing, and its fault remains. -/
theorem formulaContent_error (config : Config) {calls : List Call} {seg : Segment}
    (h : ¬ IsAnswered (b.answer s calls seg.call)) :
    ∃ fault said s', formulaContent b config seg (b.after s calls) = ⟨.error fault, said, s'⟩ := by
  rcases hc : b.convert (formulaOf seg) (seg.kind == .displayMath) (b.after s calls)
    with ⟨result, said, s'⟩
  have ha : b.answer s calls seg.call = result := congrArg Outcome.result hc
  rw [ha] at h
  rcases result with fault | m
  · cases fault with
    | rejected latex reason => exact absurd (.inr ⟨latex, reason, rfl⟩) h
    | _ =>
      simp only [formulaContent, bind, Work.andThen, Work.tell, Work.onFault, hc]
      exact ⟨_, _, _, rfl⟩
  · exact absurd (.inl ⟨m, rfl⟩) h

/-- The run of a segment depends on the answer to its own call alone. -/
theorem formatSegment_eq (config : Config) {calls : List Call} {seg : Segment}
    (h : seg.kind.isMath = true → IsAnswered (b.answer s calls seg.call)) :
    ∃ said, formatSegment b config seg (b.after s calls)
      = ⟨.ok (runOf config seg (b.answer s calls seg.call)), said,
          b.after s (calls ++ Segment.calls [seg])⟩ := by
  cases hk : seg.kind.isMath
  · have hcalls : Segment.calls [seg] = [] := by simp [Segment.calls, hk]
    rw [hcalls, List.append_nil]
    simp only [formatSegment, hk, runOf]
    exact ⟨_, rfl⟩
  · have hcalls : Segment.calls [seg] = [seg.call] := by simp [Segment.calls, hk]
    obtain ⟨said, hsaid⟩ := formulaContent_eq config (h hk)
    rw [hcalls]
    simp only [formatSegment, hk, if_true, Work.bind_ok hsaid, runOf]
    exact ⟨_, rfl⟩

/-- The same for some segments, the calls for each after those for the ones before. -/
theorem forEach_formatSegment (h : b.IsTame s) (config : Config) (calls : List Call)
    (segs : List Segment) :
    ∃ said, Work.forEach (formatSegment b config) segs (b.after s calls)
      = ⟨.ok (resolve (b.answer s) config calls segs), said,
          b.after s (calls ++ Segment.calls segs)⟩ := by
  induction segs generalizing calls with
  | nil => exact ⟨_, by rw [Segment.calls_nil, List.append_nil]; rfl⟩
  | cons seg rest ih =>
    have hanswered : seg.kind.isMath = true → IsAnswered (b.answer s calls seg.call) :=
      fun _ => h calls seg.call
    obtain ⟨said, hsaid⟩ := formatSegment_eq config hanswered
    obtain ⟨others, hothers⟩ := ih (calls ++ Segment.calls [seg])
    rw [Segment.calls_cons, ← List.append_assoc]
    rw [Work.forEach, Work.bind_ok hsaid, Work.bind_ok hothers]
    exact ⟨_, rfl⟩

/-- The runs of a text are its segments, with the formulas resolved in the order in which
    they are read. -/
theorem format_eq (h : b.IsTame s) (config : Config) (calls : List Call) (text : String) :
    ∃ said, format b config text (b.after s calls)
      = ⟨.ok (resolve (b.answer s) config calls (splitRuns text.toList)), said,
          b.after s (calls ++ Segment.calls (splitRuns text.toList))⟩ :=
  forEach_formatSegment h config calls _

/-- Segments have runs exactly if all formulas among them are converted or rejected, each
    after the calls for those before it. -/
theorem exists_runs_iff (config : Config) (calls : List Call) (segs : List Segment) :
    (∃ runs, (Work.forEach (formatSegment b config) segs (b.after s calls)).result = .ok runs) ↔
      ∀ k call, (Segment.calls segs)[k]? = some call →
        IsAnswered (b.answer s (calls ++ (Segment.calls segs).take k) call) := by
  induction segs generalizing calls with
  | nil => exact ⟨fun _ k call h => by simp [Segment.calls] at h, fun _ => ⟨[], rfl⟩⟩
  | cons seg rest ih =>
    rw [Work.forEach, Segment.calls_cons]
    by_cases h : seg.kind.isMath = true → IsAnswered (b.answer s calls seg.call)
    · obtain ⟨said, hsaid⟩ := formatSegment_eq config h
      rw [Work.bind_ok hsaid, Work.exists_result_map, ih]
      cases hk : seg.kind.isMath with
      | false =>
        have hcalls : Segment.calls [seg] = [] := by simp [Segment.calls, hk]
        rw [hcalls, List.append_nil, List.nil_append]
      | true =>
        have hcalls : Segment.calls [seg] = [seg.call] := by simp [Segment.calls, hk]
        rw [hcalls, List.singleton_append]
        constructor
        · intro hrest k call hcall
          cases k with
          | zero =>
            obtain rfl := Option.some.inj hcall
            rw [List.take_zero, List.append_nil]
            exact h hk
          | succ k => simpa using hrest k call hcall
        · intro hall k call hcall
          simpa using hall (k + 1) call hcall
    · -- The fault of this formula is the fault of all.
      obtain ⟨hk, hnot⟩ := Classical.not_imp.1 h
      obtain ⟨fault, said, s', hrun⟩ := formulaContent_error config hnot
      have hcalls : Segment.calls [seg] = [seg.call] := by simp [Segment.calls, hk]
      have hsegment : formatSegment b config seg (b.after s calls) = ⟨.error fault, said, s'⟩ := by
        simp only [formatSegment, hk, if_true]
        exact Work.bind_error hrun
      rw [Work.bind_error hsegment, hcalls, List.singleton_append]
      constructor
      · rintro ⟨_, hruns⟩
        cases hruns
      · intro hall
        exact absurd (by simpa using hall 0 seg.call rfl) hnot

/-- Inline source has runs exactly if all its formulas are converted or rejected. -/
theorem exists_format_iff (config : Config) (text : String) :
    (∃ runs, (format b config text s).result = .ok runs) ↔
      ∀ k call, (Segment.calls (splitRuns text.toList))[k]? = some call →
        IsAnswered (b.answer s ((Segment.calls (splitRuns text.toList)).take k) call) :=
  exists_runs_iff config [] _

end

end Manuscript.Inline
