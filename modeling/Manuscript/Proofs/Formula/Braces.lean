import Manuscript.Formula.Source
import Mathlib.Combinatorics.Enumerative.DyckWord

/-!
# Braces that pair

The braces of a formula that mean something are steps up and down, and they pair if these
make a Dyck word. A brace means nothing right after an odd number of backslashes, which is
said here by counting them (`slashes`); the check itself reads two characters at a time.

* `braceFault?_eq_pairing`: the check is a walk along the steps;
* `braceFault?_eq_none_iff`: it passes the formulas with braces that pair, and no others.
-/

namespace Manuscript.Formula

open DyckStep

/-! ## Steps -/

/-- The number of backslashes right at the end of a text, which is given from its end. -/
def slashes (before : List Char) : Nat := (before.takeWhile (· = '\x5c')).length

/-- The step that a character is after a text: none if an odd number of backslashes stands
    right before it. -/
def braceStep? (before : List Char) (c : Char) : Option DyckStep :=
  if slashes before % 2 = 1 then none
  else if c = '\x7b' then some U
  else if c = '\x7d' then some D
  else none

/-- The steps of a text that stands after another. -/
def bracesAfter (before : List Char) : List Char → List DyckStep
  | [] => []
  | c :: cs => (braceStep? before c).toList ++ bracesAfter (c :: before) cs

/-- The steps of a formula: up for a brace that opens, down for one that closes. -/
def braces (cs : List Char) : List DyckStep := bracesAfter [] cs

/-- The braces of a formula pair. -/
def IsBalanced (cs : List Char) : Prop := ∃ w : DyckWord, w.toList = braces cs

@[simp] theorem slashes_cons_slash (before : List Char) :
    slashes ('\x5c' :: before) = slashes before + 1 := by
  simp [slashes]

/-- No other character is one of them. -/
theorem slashes_cons {c : Char} (h : c ≠ '\x5c') (before : List Char) :
    slashes (c :: before) % 2 = 0 := by
  simp [slashes, h]

/-! ## The walk -/

/-- What is wrong with the steps of a walk that starts at some height: it comes below the ground,
    or does not end on it. -/
def pairing : (height : Nat) → List DyckStep → Option BraceFault
  | 0, [] => none
  | _ + 1, [] => some .unclosed
  | height, U :: steps => pairing (height + 1) steps
  | 0, D :: _ => some .unopened
  | height + 1, D :: steps => pairing height steps

section Walk

variable {before : List Char} (h : slashes before % 2 = 0)

include h

theorem braceStep?_of_even (c : Char) :
    braceStep? before c = if c = '\x7b' then some U else if c = '\x7d' then some D else none :=
  if_neg (by omega)

/-- A backslash and the character after it are no steps. -/
theorem bracesAfter_escaped (c : Char) (cs : List Char) :
    bracesAfter before ('\x5c' :: c :: cs) = bracesAfter (c :: '\x5c' :: before) cs
      ∧ slashes (c :: '\x5c' :: before) % 2 = 0 := by
  have hodd : slashes ('\x5c' :: before) % 2 = 1 := by
    rw [slashes_cons_slash]
    omega
  have hslash : braceStep? before '\x5c' = none := by
    rw [braceStep?_of_even h]
    decide
  constructor
  · rw [bracesAfter, hslash, bracesAfter, braceStep?, if_pos hodd]
    rfl
  · by_cases hc : c = '\x5c'
    · rw [hc, slashes_cons_slash, slashes_cons_slash]
      omega
    · exact slashes_cons hc _

/-- What does not come after an odd number of backslashes is read as the check reads it. -/
theorem braceFaultAt_eq_pairing (depth : Nat) (cs : List Char) :
    braceFaultAt depth cs = pairing depth (bracesAfter before cs) := by
  induction depth, cs using braceFaultAt.induct generalizing before with
  | case1 | case2 => rfl
  | case3 =>
    rw [bracesAfter, braceStep?_of_even h]
    rfl
  | case4 depth hdepth =>
    obtain ⟨height, rfl⟩ := Nat.exists_eq_succ_of_ne_zero hdepth
    rw [bracesAfter, braceStep?_of_even h]
    rfl
  | case5 depth c cs ih =>
    obtain ⟨hsteps, heven⟩ := bracesAfter_escaped h c cs
    rw [hsteps, ← ih heven, braceFaultAt]
  | case6 depth cs ih =>
    have hstep : braceStep? before '\x7b' = some U := braceStep?_of_even h _
    have heven := slashes_cons (by decide : '\x7b' ≠ '\x5c') before
    rw [bracesAfter, hstep, Option.toList_some, List.singleton_append, pairing, braceFaultAt,
      ih heven]
  | case7 cs =>
    rw [bracesAfter, braceStep?_of_even h]
    rfl
  | case8 depth cs ih =>
    have hstep : braceStep? before '\x7d' = some D := braceStep?_of_even h _
    have heven := slashes_cons (by decide : '\x7d' ≠ '\x5c') before
    rw [bracesAfter, hstep, Option.toList_some, List.singleton_append, pairing, braceFaultAt,
      ih heven]
  | case9 depth c cs hlast hslash hopen hground hclose ih =>
    have hc : c ≠ '\x5c' := by
      rintro rfl
      cases cs with
      | nil => exact hlast rfl rfl
      | cons d ds => exact hslash d ds rfl rfl
    have hclose' : c ≠ '\x7d' := by
      rintro rfl
      cases depth with
      | zero => exact hground rfl rfl
      | succ depth => exact hclose depth rfl rfl
    rw [bracesAfter, braceStep?_of_even h, if_neg hopen, if_neg hclose', Option.toList_none,
      List.nil_append, braceFaultAt, ih (slashes_cons hc before)]
    all_goals assumption

end Walk

/-- The check is a walk along the steps of a formula. -/
theorem braceFault?_eq_pairing (cs : List Char) : braceFault? cs = pairing 0 (braces cs) :=
  braceFaultAt_eq_pairing (show slashes [] % 2 = 0 from rfl) 0 cs

/-! ## Words -/

/-- A walk from some height never comes below the ground. -/
def StaysUp (height : Nat) (steps : List DyckStep) : Prop :=
  ∀ i, (steps.take i).count D ≤ height + (steps.take i).count U

theorem staysUp_cons {height : Nat} {s : DyckStep} {steps : List DyckStep} :
    StaysUp height (s :: steps) ↔
      ∀ i, (s :: steps.take i).count D ≤ height + (s :: steps.take i).count U := by
  refine ⟨fun h i => h (i + 1), fun h i => ?_⟩
  cases i with
  | zero => exact Nat.zero_le _
  | succ i => exact h i

theorem staysUp_up {height : Nat} {steps : List DyckStep} :
    StaysUp height (U :: steps) ↔ StaysUp (height + 1) steps := by
  rw [staysUp_cons]
  refine forall_congr' fun i => ?_
  rw [List.count_cons_self, List.count_cons_of_ne (by decide)]
  omega

theorem staysUp_down {height : Nat} {steps : List DyckStep} :
    StaysUp (height + 1) (D :: steps) ↔ StaysUp height steps := by
  rw [staysUp_cons]
  refine forall_congr' fun i => ?_
  rw [List.count_cons_self, List.count_cons_of_ne (by decide)]
  omega

theorem not_staysUp_down (steps : List DyckStep) : ¬ StaysUp 0 (D :: steps) := fun h => by
  have hone := h 1
  simp at hone

/-- A walk without fault stays up and ends on the ground. -/
theorem pairing_eq_none_iff (height : Nat) (steps : List DyckStep) :
    pairing height steps = none ↔
      StaysUp height steps ∧ height + steps.count U = steps.count D := by
  induction height, steps using pairing.induct with
  | case1 => simp [pairing, StaysUp]
  | case2 height => simp [pairing]
  | case3 height steps ih =>
    rw [pairing, ih, staysUp_up, List.count_cons_self, List.count_cons_of_ne (by decide)]
    exact and_congr_right fun _ => by omega
  | case4 steps => simp [pairing, not_staysUp_down]
  | case5 height steps ih =>
    rw [pairing, ih, staysUp_down, List.count_cons_self, List.count_cons_of_ne (by decide)]
    exact and_congr_right fun _ => by omega

/-- The check passes the formulas with braces that pair. -/
theorem braceFault?_eq_none_iff {cs : List Char} : braceFault? cs = none ↔ IsBalanced cs := by
  rw [braceFault?_eq_pairing, pairing_eq_none_iff, StaysUp]
  simp only [Nat.zero_add]
  constructor
  · rintro ⟨hup, hground⟩
    exact ⟨⟨braces cs, hground, hup⟩, rfl⟩
  · rintro ⟨w, hw⟩
    rw [← hw]
    exact ⟨w.count_D_le_count_U, w.count_U_eq_count_D⟩

example : IsBalanced "a\\\\\x7bb\\\x7d\x7d".toList := braceFault?_eq_none_iff.1 (by decide +kernel)

end Manuscript.Formula
