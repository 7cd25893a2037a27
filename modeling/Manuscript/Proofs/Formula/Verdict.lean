import Manuscript.Proofs.Formula.Braces
import Manuscript.Proofs.Formula.Containment
import Manuscript.Proofs.Formula.Questions
import Manuscript.Proofs.Formula.Upright

/-!
# What the check of braces tells

The faults that the check tells are told apart by the steps of a formula: a brace that was not
opened is a start of the formula with more steps down than up, and braces that are not closed
are steps up that are left when there is no such start.

The check comes before text becomes upright letters, and the steps are the same afterwards: a
text command has letters between its backslash and its brace, so that the brace is a step
whatever stands before the command, and what follows the brace is read as it was. So the first
step of a conversion gets formulas with braces that pair, though only the source was checked.

* `bracesAfter_congr`: whether the backslashes before a text are even in number is all that
  matters of what stands before it;
* `bracesAfter_uprightWithin`: text commands are replaced without any change of the steps;
* `braceFault?_tells`: the faults, and the check of a formula before and after.
-/

namespace Manuscript.Formula

open DyckStep Manuscript.Text Manuscript.Work

/-! ## Faults of a walk -/

/-- A walk comes below the ground if it does not stay up. -/
theorem pairing_eq_unopened_iff (height : Nat) (steps : List DyckStep) :
    pairing height steps = some .unopened ↔ ¬ StaysUp height steps := by
  induction height, steps using pairing.induct with
  | case1 => simp [pairing, StaysUp]
  | case2 height => simp [pairing, StaysUp]
  | case3 height steps ih => rw [pairing, ih, staysUp_up]
  | case4 steps => simp [pairing, not_staysUp_down]
  | case5 height steps ih => rw [pairing, ih, staysUp_down]

theorem StaysUp.count_le {height : Nat} {steps : List DyckStep} (h : StaysUp height steps) :
    steps.count D ≤ height + steps.count U := by
  simpa only [List.take_length] using h steps.length

/-- A walk that stays up has the other fault if it ends above the ground. -/
theorem pairing_eq_unclosed_iff (height : Nat) (steps : List DyckStep) :
    pairing height steps = some .unclosed ↔
      StaysUp height steps ∧ steps.count D < height + steps.count U := by
  have hnone := pairing_eq_none_iff height steps
  have hunopened := pairing_eq_unopened_iff height steps
  -- A walk comes to one of three ends, and what the other two mean is known.
  rcases hp : pairing height steps with _ | _ | _ <;> rw [hp] at hnone hunopened
  · have hground := (hnone.1 rfl).2
    exact ⟨nofun, fun h => absurd h.2 (by omega)⟩
  · exact ⟨nofun, fun h => absurd h.1 (hunopened.1 rfl)⟩
  · have hup : StaysUp height steps := by
      by_contra hdown
      exact nomatch hunopened.2 hdown
    have hle := hup.count_le
    have hne : height + steps.count U ≠ steps.count D := fun heq => nomatch hnone.2 ⟨hup, heq⟩
    exact ⟨fun _ => ⟨hup, by omega⟩, fun _ => rfl⟩

/-! ## Starts of a formula -/

theorem bracesAfter_append (before xs ys : List Char) :
    bracesAfter before (xs ++ ys)
      = bracesAfter before xs ++ bracesAfter (xs.reverse ++ before) ys := by
  induction xs generalizing before with
  | nil => rfl
  | cons c xs ih =>
    rw [List.cons_append, bracesAfter, bracesAfter, ih, List.append_assoc, List.reverse_cons,
      List.append_assoc, List.singleton_append]

/-- The steps of a text up to any of them are those of a start of the text. -/
theorem exists_bracesAfter_eq_take (before cs : List Char) (i : Nat) :
    ∃ start, start <+: cs ∧ bracesAfter before start = (bracesAfter before cs).take i := by
  induction cs generalizing before i with
  | nil => exact ⟨[], List.nil_prefix, (List.take_nil).symm⟩
  | cons c cs ih =>
    -- Only a brace uses up one of the steps.
    cases hstep : braceStep? before c with
    | none =>
      obtain ⟨start, hstart, heq⟩ := ih (c :: before) i
      refine ⟨c :: start, (List.prefix_cons_inj c).2 hstart, ?_⟩
      simp only [bracesAfter, hstep, Option.toList_none, List.nil_append, heq]
    | some s =>
      cases i with
      | zero => exact ⟨[], List.nil_prefix, rfl⟩
      | succ i =>
        obtain ⟨start, hstart, heq⟩ := ih (c :: before) i
        refine ⟨c :: start, (List.prefix_cons_inj c).2 hstart, ?_⟩
        simp only [bracesAfter, hstep, Option.toList_some, List.singleton_append, heq,
          List.take_succ_cons]

/-- The steps of a formula stay up if in no start of it there are more steps down. -/
theorem staysUp_braces_iff (cs : List Char) :
    StaysUp 0 (braces cs) ↔
      ∀ start, start <+: cs → (braces start).count D ≤ (braces start).count U := by
  simp only [StaysUp, Nat.zero_add]
  constructor
  · rintro h start ⟨rest, rfl⟩
    have hbraces : braces (start ++ rest) = braces start ++ _ := bracesAfter_append [] start rest
    simpa only [hbraces, List.take_left] using h (braces start).length
  · intro h i
    obtain ⟨start, hstart, heq⟩ := exists_bracesAfter_eq_take [] cs i
    rw [braces, ← heq]
    exact h start hstart

/-! ## Steps of upright text -/

/-- Of what stands before a text, only the parity of the backslashes at its end matters. -/
theorem bracesAfter_congr {before before' : List Char}
    (h : slashes before % 2 = slashes before' % 2) (cs : List Char) :
    bracesAfter before cs = bracesAfter before' cs := by
  induction cs generalizing before before' with
  | nil => rfl
  | cons c cs ih =>
    have hparity : slashes (c :: before) % 2 = slashes (c :: before') % 2 := by
      by_cases hc : c = '\x5c'
      · rw [hc, slashes_cons_slash, slashes_cons_slash]
        omega
      · rw [slashes_cons hc, slashes_cons hc]
    rw [bracesAfter, bracesAfter, braceStep?, braceStep?, h, ih hparity]

/-- A character that is no brace is no step. -/
theorem braceStep?_eq_none {before : List Char} {c : Char} (hopen : c ≠ '\x7b')
    (hclose : c ≠ '\x7d') : braceStep? before c = none := by
  rw [braceStep?, if_neg hopen, if_neg hclose, ite_self]

/-- A text opens the argument of a command: it is a backslash, letters and a brace. -/
def OpensArgument (mark : List Char) : Prop :=
  ∃ letters, mark = '\x5c' :: letters ++ ['\x7b'] ∧ letters ≠ [] ∧ ∀ c ∈ letters, c.isAlpha = true

theorem opensArgument_textMark : OpensArgument textMark :=
  ⟨"text".toList, by decide +kernel, by decide +kernel, List.all_eq_true.1 (by decide +kernel)⟩

theorem opensArgument_uprightMark : OpensArgument uprightMark :=
  ⟨"mathrm".toList, by decide +kernel, by decide +kernel, List.all_eq_true.1 (by decide +kernel)⟩

theorem bracesAfter_letters {letters : List Char} (h : ∀ c ∈ letters, c.isAlpha = true)
    (before cs : List Char) :
    bracesAfter before (letters ++ cs) = bracesAfter (letters.reverse ++ before) cs := by
  induction letters generalizing before with
  | nil => rfl
  | cons c letters ih =>
    obtain ⟨hc, hletters⟩ := List.forall_mem_cons.1 h
    have hstep : braceStep? before c = none :=
      braceStep?_eq_none (by rintro rfl; exact absurd hc (by decide))
        (by rintro rfl; exact absurd hc (by decide))
    rw [List.cons_append, bracesAfter, hstep, Option.toList_none, List.nil_append, ih hletters,
      List.reverse_cons, List.append_assoc, List.singleton_append]

/-- The brace of a command is a step up, whatever stands before the command, and what follows the
    brace is read as at the start of a text. -/
theorem bracesAfter_of_opensArgument {mark : List Char} (h : OpensArgument mark)
    (before cs : List Char) : bracesAfter before (mark ++ cs) = U :: bracesAfter [] cs := by
  obtain ⟨letters, rfl, hne, hletters⟩ := h
  have hslash : braceStep? before '\x5c' = none := braceStep?_eq_none (by decide) (by decide)
  -- The last letter stands between the backslashes and the brace.
  have heven : slashes (letters.reverse ++ '\x5c' :: before) % 2 = 0 := by
    obtain ⟨c, rest, hrest⟩ := List.exists_cons_of_ne_nil (List.reverse_ne_nil_iff.2 hne)
    have hc : c ≠ '\x5c' := by
      rintro rfl
      exact absurd (hletters _ (List.mem_reverse.1 (hrest ▸ List.mem_cons_self))) (by decide)
    rw [hrest, List.cons_append, slashes_cons hc]
  have hopen : braceStep? (letters.reverse ++ '\x5c' :: before) '\x7b' = some U :=
    braceStep?_of_even heven _
  rw [List.append_assoc, List.cons_append, bracesAfter, hslash, Option.toList_none, List.nil_append,
    bracesAfter_letters hletters, List.singleton_append, bracesAfter, hopen, Option.toList_some,
    List.singleton_append]
  exact congrArg _ (bracesAfter_congr (slashes_cons (by decide) _) cs)

/-- Text commands are replaced without any change of the steps, whatever stands before them. -/
theorem bracesAfter_uprightWithin (fuel : Nat) (before cs : List Char) :
    bracesAfter before (uprightWithin fuel cs) = bracesAfter before cs := by
  fun_induction uprightWithin fuel cs generalizing before with
  | case1 cs => rfl
  | case2 => rfl
  | case3 fuel c cs body rest hcommand ih =>
    -- Both commands are one step up before the same argument, brace and rest.
    rw [(textArgument?_eq_some_iff.1 hcommand).eq_append]
    simp only [List.append_assoc, bracesAfter_of_opensArgument opensArgument_textMark,
      bracesAfter_of_opensArgument opensArgument_uprightMark]
    rw [bracesAfter_append, bracesAfter_append, bracesAfter, bracesAfter, ih]
  | case4 fuel c cs hcommand ih => rw [bracesAfter, bracesAfter, ih]

theorem braces_uprightText (cs : List Char) : braces (uprightText cs) = braces cs :=
  bracesAfter_uprightWithin cs.length [] cs

/-- The check tells the same of a formula before and after its text becomes upright letters. -/
theorem braceFault?_uprightText (cs : List Char) :
    braceFault? (uprightText cs) = braceFault? cs := by
  rw [braceFault?_eq_pairing, braceFault?_eq_pairing, braces_uprightText]

/-! ## Conversions -/

namespace Converters

variable {σ : Type} (c : Converters σ)

/-- A source that passes the check still does when the first step is asked about it. -/
theorem isBalanced_prepared {latex : String} {source : List Char}
    (h : sourceOf latex = .ok source) : IsBalanced (prepared source).toList := by
  have hpasses : braceFault? source = none := by
    unfold sourceOf at h
    dsimp only at h
    split at h
    · cases h
    · split at h
      · cases h
      · next hnone => exact Except.ok.inj h ▸ hnone
  rw [prepared, String.toList_ofList, ← braceFault?_eq_none_iff, braceFault?_uprightText, hpasses]

/-- The first step is asked about formulas with braces that pair, and about no others. -/
def AsksBalanced (e : Engine (σ × List Question)) : Prop :=
  ∀ source answer, .markup source answer ∈ e.asked → IsBalanced source.toList

variable {e e' : Engine (σ × List Question)}

theorem AsksBalanced.of_markup (h : AsksBalanced e) {source : String} {answer : Answer}
    (hasks : Asks e e' [.markup source answer]) (hsource : IsBalanced source.toList) :
    AsksBalanced e' := by
  intro source' answer' hmem
  rw [hasks.asked] at hmem
  rcases List.mem_append.1 hmem with hmem | hmem
  · exact h _ _ hmem
  · obtain ⟨rfl, -⟩ := Question.markup.inj (List.mem_singleton.1 hmem)
    exact hsource

theorem AsksBalanced.of_office (h : AsksBalanced e) {markup : String} {entities : Entities}
    {answer : Answer} (hasks : Asks e e' [.office markup entities answer]) :
    AsksBalanced e' := by
  intro source' answer' hmem
  rw [hasks.asked] at hmem
  rcases List.mem_append.1 hmem with hmem | hmem
  · exact h _ _ hmem
  · exact nomatch List.mem_singleton.1 hmem

theorem convertNow_asksBalanced (latex : String) (display : Bool) (h : AsksBalanced e) :
    Ends (c.recorded.convertNow latex display) e (fun _ => AsksBalanced) fun _ => AsksBalanced := by
  rw [convertNow_eq]
  refine .bind ((c.markupFor_asks latex e).mono (fun _ _ h => h) ?_) ?_
  · rintro _ e' (⟨-, hasks⟩ | ⟨source, answer, hsource, hasks⟩)
    · rw [AsksBalanced, hasks.asked, List.append_nil]
      exact h
    · exact h.of_markup hasks (isBalanced_prepared hsource)
  · rintro markup e' ⟨source, _, hsource, hasks, -⟩
    have h' : AsksBalanced e' := h.of_markup hasks (isBalanced_prepared hsource)
    refine (c.finish_asks latex display markup e').mono ?_ ?_
    · rintro _ e'' ⟨answer, _, hasks, -⟩
      exact h'.of_office hasks
    · rintro _ e'' ⟨answer, _, hasks, -⟩
      exact h'.of_office hasks

end Converters

/-- The words for a fault tell which one it is. -/
theorem BraceFault.message_inj {f g : BraceFault} :
    f.reason.message = g.reason.message ↔ f = g := by
  cases f <;> cases g <;> decide

/-- The check passes a formula if its braces pair. It tells of a brace that was not opened if a
    start of the formula has more braces that close than such that open, and of braces that are
    not closed if no start has, but the whole formula has more that open. Of the formula with its
    text as upright letters it tells the same, and no conversion asks the first step about braces
    that do not pair. -/
theorem braceFault?_tells (cs : List Char) :
    ((braceFault? cs = none ↔ IsBalanced cs)
      ∧ ((braceFault? cs).map (·.reason.message) = some "unexpected closing brace" ↔
        ∃ start, start <+: cs ∧ (braces start).count U < (braces start).count D)
      ∧ ((braceFault? cs).map (·.reason.message) = some "unbalanced braces" ↔
        (∀ start, start <+: cs → (braces start).count D ≤ (braces start).count U)
          ∧ (braces cs).count D < (braces cs).count U))
      ∧ braceFault? (uprightText cs) = braceFault? cs
      ∧ ∀ {σ : Type} (c : Converters σ) (e : Engine σ) (display : Bool) (source : String)
          (answer : Answer),
          .markup source answer
              ∈ (c.recorded.convertNow (String.ofList cs) display e.recorded).state.asked →
            IsBalanced source.toList := by
  have htells (f : BraceFault) :
      (braceFault? cs).map (·.reason.message) = some f.reason.message ↔
        pairing 0 (braces cs) = some f := by
    rw [braceFault?_eq_pairing]
    cases pairing 0 (braces cs) <;> simp [BraceFault.message_inj]
  refine ⟨⟨braceFault?_eq_none_iff, ?_, ?_⟩, braceFault?_uprightText cs, ?_⟩
  · refine (htells .unopened).trans ?_
    rw [pairing_eq_unopened_iff, staysUp_braces_iff]
    push Not
    rfl
  · refine (htells .unclosed).trans ?_
    rw [pairing_eq_unclosed_iff, staysUp_braces_iff, Nat.zero_add]
  · intro σ c e display source answer hasked
    have hends := c.convertNow_asksBalanced (e := e.recorded) (String.ofList cs) display
      fun _ _ h => absurd h List.not_mem_nil
    cases hends with
    | of_ok run holds =>
      rw [run] at hasked
      exact holds source answer hasked
    | of_error run fails =>
      rw [run] at hasked
      exact fails source answer hasked

/-- A text command after an escaped backslash, with an escaped brace in it and one brace too many
    after it; and a formula of which the first step is asked. -/
theorem braceFault?_tells_escaped :
    (∃ start, start <+: "\\\\\\text\x7ba\\\x7d\x7d\x7d".toList
        ∧ (braces start).count U < (braces start).count D)
      ∧ braceFault? (uprightText "\\\\\\text\x7ba\\\x7d\x7d\x7d".toList) = some .unopened
      ∧ IsBalanced "\\mathrm\x7ba\x7d".toList := by
  obtain ⟨⟨-, hunopened, -⟩, hupright, -⟩ := braceFault?_tells "\\\\\\text\x7ba\\\x7d\x7d\x7d".toList
  have hcheck : braceFault? "\\\\\\text\x7ba\\\x7d\x7d\x7d".toList = some .unopened := by
    decide +kernel
  obtain ⟨-, -, hasked⟩ := braceFault?_tells "\\text\x7ba\x7d".toList
  refine ⟨hunopened.1 (by rw [hcheck]; rfl), hupright.trans hcheck, ?_⟩
  exact hasked Converters.failing ⟨true, [], ()⟩ false _ (.text "<") (List.mem_singleton.2 rfl)

end Manuscript.Formula
