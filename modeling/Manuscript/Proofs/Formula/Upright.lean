import Manuscript.Formula.Source
import Mathlib.Data.List.TakeWhile

/-!
# Text left in formulas

Text in a formula becomes upright letters in one pass. The argument of a text command is what
stands before the next closing brace, and the pass goes on after that brace. So a formula may be
looked at piece by piece, from one closing brace to the next (`hasTextWith_append`). What is put
in for a command has no text command in it, nor has a seam; but the argument is put in as it is,
and a command that was opened in it, with something after it, is left (`NestsText`).

* `textArgument?_eq_some_iff`: a text command, its argument and what follows it;
* `uprightWithin_eq_self_iff`: the pass replaces something if there is a text command;
* `isCommand_of_uprightWithin`: no seam makes a text command;
* `hasText_uprightText_iff`: the pass leaves text to replace if commands are nested.
-/

namespace Manuscript.Formula

variable {P : List Char → Prop} {c : Char} {cs body rest : List Char} {fuel : Nat}

/-! ## Text commands -/

/-- A text command at the start of a formula: the mark, an argument that is not empty, and the
    first brace that closes. -/
structure IsCommand (cs body rest : List Char) : Prop where
  eq_append : cs = textMark ++ body ++ '\x7d' :: rest
  notMem : '\x7d' ∉ body
  ne_nil : body ≠ []

theorem after?_eq_some_iff {mark cs rest : List Char} :
    after? mark cs = some rest ↔ cs = mark ++ rest := by
  induction mark generalizing cs with
  | nil => simp [after?]
  | cons m ms ih =>
    cases cs with
    | nil => simp [after?]
    | cons c cs =>
      by_cases h : m = c
      · simp [after?, h, ih]
      · simp [after?, h, Ne.symm h]

/-- A text is cut at its first closing brace. -/
theorem span_brace (body rest : List Char) (h : '\x7d' ∉ body) :
    (body ++ '\x7d' :: rest).takeWhile (· != '\x7d') = body
      ∧ (body ++ '\x7d' :: rest).dropWhile (· != '\x7d') = '\x7d' :: rest := by
  have hbody : ∀ c ∈ body, (c != '\x7d') = true := fun c hc => by
    simpa using ne_of_mem_of_not_mem hc h
  rw [List.takeWhile_append_of_pos hbody, List.dropWhile_append_of_pos hbody]
  simp

/-- The first closing brace of a text is at one place. -/
theorem append_brace_inj {body' rest' : List Char} (h : '\x7d' ∉ body) (h' : '\x7d' ∉ body')
    (heq : body ++ '\x7d' :: rest = body' ++ '\x7d' :: rest') : body = body' ∧ rest = rest' := by
  obtain ⟨htake, hdrop⟩ := span_brace body rest h
  obtain ⟨htake', hdrop'⟩ := span_brace body' rest' h'
  rw [heq] at htake hdrop
  exact ⟨htake.symm.trans htake', (List.cons.inj (hdrop.symm.trans hdrop')).2⟩

theorem textArgument?_eq_some_iff :
    textArgument? cs = some (body, rest) ↔ IsCommand cs body rest := by
  simp only [textArgument?, Option.bind_eq_some_iff, after?_eq_some_iff]
  constructor
  · rintro ⟨opened, rfl, h⟩
    by_cases hbrace : '\x7d' ∈ opened
    · obtain ⟨body', rest', rfl, hnot⟩ := List.eq_append_cons_of_mem hbrace
      obtain ⟨htake, hdrop⟩ := span_brace body' rest' hnot
      simp only [htake, hdrop, List.isEmpty_iff] at h
      split at h
      · cases h
      · next hne =>
        cases h
        exact ⟨(List.append_assoc _ _ _).symm, hnot, hne⟩
    · have hdrop : opened.dropWhile (· != '\x7d') = [] := by
        rw [List.dropWhile_eq_nil_iff]
        exact fun c hc => by simpa using ne_of_mem_of_not_mem hc hbrace
      rw [hdrop] at h
      cases h
  · rintro ⟨rfl, hnot, hne⟩
    obtain ⟨htake, hdrop⟩ := span_brace body rest hnot
    refine ⟨body ++ '\x7d' :: rest, List.append_assoc _ _ _, ?_⟩
    simp only [htake, hdrop, List.isEmpty_iff, if_neg hne]

theorem not_isCommand_of_none (h : textArgument? cs = none) : ¬ IsCommand cs body rest :=
  fun hcommand => nomatch h.symm.trans (textArgument?_eq_some_iff.2 hcommand)

/-! ## Pieces -/

/-- A piece of a formula opens a text command, of which what is left of the piece is the
    argument. -/
def Opens (P : List Char → Prop) (piece : List Char) : Prop :=
  ∃ before body, piece = before ++ textMark ++ body ∧ P body

/-- A formula has a text command with an argument of some kind. -/
def HasTextWith (P : List Char → Prop) (cs : List Char) : Prop :=
  ∃ before body rest, cs = before ++ (textMark ++ body ++ '\x7d' :: rest) ∧ '\x7d' ∉ body ∧ P body

/-- A formula has a text command, with an argument that is not empty. -/
def HasText (cs : List Char) : Prop := HasTextWith (· ≠ []) cs

/-- A formula has a text command in the argument of which another one is opened, with something
    after it. -/
def NestsText (cs : List Char) : Prop := HasTextWith (Opens (· ≠ [])) cs

theorem not_hasTextWith (h : '\x7d' ∉ cs) : ¬ HasTextWith P cs := by
  rintro ⟨before, body, rest, rfl, -⟩
  exact h (by simp)

theorem Opens.ne_nil {piece : List Char} (h : Opens P piece) : piece ≠ [] := by
  obtain ⟨before, body, rfl, -⟩ := h
  simp [textMark]

theorem Opens.append {piece : List Char} (h : Opens P piece) (more : List Char) :
    Opens P (more ++ piece) := by
  obtain ⟨before, body, rfl, hbody⟩ := h
  exact ⟨more ++ before, body, by simp, hbody⟩

/-- The first character of a formula begins a text command, or has no part in one. -/
theorem hasTextWith_cons (hP : ∀ body, P body → body ≠ []) :
    HasTextWith P (c :: cs) ↔
      (∃ body rest, IsCommand (c :: cs) body rest ∧ P body) ∨ HasTextWith P cs := by
  constructor
  · rintro ⟨before, body, rest, heq, hnot, hbody⟩
    cases before with
    | nil => exact .inl ⟨body, rest, ⟨heq, hnot, hP body hbody⟩, hbody⟩
    | cons d before => exact .inr ⟨before, body, rest, (List.cons.inj heq).2, hnot, hbody⟩
  · rintro (⟨body, rest, hcommand, hbody⟩ | ⟨before, body, rest, rfl, hnot, hbody⟩)
    · exact ⟨[], body, rest, hcommand.eq_append, hcommand.notMem, hbody⟩
    · exact ⟨c :: before, body, rest, rfl, hnot, hbody⟩

theorem textMark_eq : textMark = '\x5c' :: "text\x7b".toList := by decide +kernel

theorem notMem_textMark : '\x7d' ∉ textMark := by decide +kernel

/-- A text command is in the first piece of a formula or after it. -/
theorem hasTextWith_append {piece : List Char} (h : '\x7d' ∉ piece) :
    HasTextWith P (piece ++ '\x7d' :: rest) ↔ Opens P piece ∨ HasTextWith P rest := by
  constructor
  · rintro ⟨before, body, after, heq, hnot, hbody⟩
    by_cases hbefore : '\x7d' ∈ before
    · obtain ⟨piece', before', rfl, hpiece⟩ := List.eq_append_cons_of_mem hbefore
      rw [List.append_assoc, List.cons_append] at heq
      obtain ⟨-, rfl⟩ := append_brace_inj h hpiece heq
      exact .inr ⟨before', body, after, rfl, hnot, hbody⟩
    · have hopened : '\x7d' ∉ before ++ textMark ++ body := by
        simp [hbefore, hnot, notMem_textMark]
      rw [← List.append_assoc, ← List.append_assoc] at heq
      obtain ⟨rfl, -⟩ := append_brace_inj h hopened heq
      exact .inl ⟨before, body, rfl, hbody⟩
  · rintro (⟨before, body, rfl, hbody⟩ | ⟨before, body, after, rfl, hnot, hbody⟩)
    · refine ⟨before, body, rest, by simp, fun hmem => h ?_, hbody⟩
      exact List.mem_append_right _ hmem
    · exact ⟨piece ++ '\x7d' :: before, body, after, by simp, hnot, hbody⟩

/-! ## The pass -/

theorem uprightMark_append_ne (xs ys : List Char) : uprightMark ++ xs ≠ textMark ++ ys := by
  intro h
  have hsecond : (uprightMark ++ xs)[1]? = (textMark ++ ys)[1]? := congrArg (·[1]?) h
  rw [List.getElem?_append_left (by decide +kernel), List.getElem?_append_left (by decide +kernel)]
    at hsecond
  exact absurd hsecond (by decide +kernel)

/-- Without a text command the pass replaces nothing. -/
theorem uprightWithin_eq_self (h : ¬ HasText cs) : uprightWithin fuel cs = cs := by
  fun_induction uprightWithin fuel cs with
  | case1 => rfl
  | case2 => rfl
  | case3 fuel c cs body rest hcommand =>
    obtain ⟨heq, hnot, hne⟩ := textArgument?_eq_some_iff.1 hcommand
    exact absurd ⟨[], body, rest, heq, hnot, hne⟩ h
  | case4 fuel c cs _ ih =>
    rw [ih fun htext => h ((hasTextWith_cons fun _ => id).2 (.inr htext))]

theorem uprightWithin_eq_self_iff (h : cs.length ≤ fuel) :
    uprightWithin fuel cs = cs ↔ ¬ HasText cs := by
  refine ⟨fun hself => ?_, uprightWithin_eq_self⟩
  fun_induction uprightWithin fuel cs with
  | case1 cs =>
    rw [List.length_eq_zero_iff.1 (Nat.le_zero.1 h)]
    exact not_hasTextWith List.not_mem_nil
  | case2 => exact not_hasTextWith List.not_mem_nil
  | case3 fuel c cs body rest hcommand =>
    rw [(textArgument?_eq_some_iff.1 hcommand).eq_append, List.append_assoc,
      List.append_assoc] at hself
    exact absurd hself (uprightMark_append_ne _ _)
  | case4 fuel c cs hnone ih =>
    rw [HasText, hasTextWith_cons fun _ => id]
    rintro (⟨body, rest, hcommand, -⟩ | htext)
    · exact not_isCommand_of_none hnone hcommand
    · exact ih (Nat.le_of_succ_le_succ h) (List.cons.inj hself).2 htext

/-- Of a character the pass makes one that is the same at the start, and goes on after it unless
    it is a backslash. -/
theorem uprightWithin_cons (fuel : Nat) (c : Char) (cs : List Char) :
    ∃ tail, uprightWithin fuel (c :: cs) = c :: tail
      ∧ (c ≠ '\x5c' → ∃ fuel', tail = uprightWithin fuel' cs) := by
  cases fuel with
  | zero => exact ⟨cs, rfl, fun _ => ⟨0, by cases cs <;> rfl⟩⟩
  | succ fuel =>
    rw [uprightWithin]
    cases hcommand : textArgument? (c :: cs) with
    | none => exact ⟨_, rfl, fun _ => ⟨fuel, rfl⟩⟩
    | some found =>
      -- Both commands begin with a backslash.
      have heq := (textArgument?_eq_some_iff.1 hcommand).eq_append
      rw [textMark_eq, List.append_assoc, List.cons_append] at heq
      obtain rfl : c = '\x5c' := (List.cons.inj heq).1
      exact ⟨_, rfl, fun hne => absurd rfl hne⟩

/-- What the pass shows without a backslash was there. -/
theorem exists_of_uprightWithin {letters tail : List Char} (hletters : '\x5c' ∉ letters)
    (h : uprightWithin fuel cs = letters ++ tail) :
    ∃ fuel' rest, cs = letters ++ rest ∧ uprightWithin fuel' rest = tail := by
  induction letters generalizing fuel cs with
  | nil => exact ⟨fuel, cs, rfl, h⟩
  | cons d letters ih =>
    obtain ⟨hd, hrest⟩ := not_or.1 (mt List.mem_cons.2 hletters)
    cases cs with
    | nil => cases fuel <;> cases h
    | cons c cs =>
      obtain ⟨tail', htail, hgoes⟩ := uprightWithin_cons fuel c cs
      obtain ⟨rfl, rfl⟩ := List.cons.inj (htail.symm.trans h)
      obtain ⟨fuel', hfuel⟩ := hgoes (Ne.symm hd)
      obtain ⟨fuel'', rest, rfl, hkept⟩ := ih hrest hfuel.symm
      exact ⟨fuel'', rest, rfl, hkept⟩

/-- No seam makes a text command: one at a place that the pass keeps was there before. -/
theorem isCommand_of_uprightWithin (h : IsCommand (c :: uprightWithin fuel cs) body rest) :
    ∃ body' rest', IsCommand (c :: cs) body' rest' := by
  obtain ⟨heq, hnot, hne⟩ := h
  rw [textMark_eq, List.append_assoc, List.cons_append] at heq
  obtain ⟨rfl, hshown⟩ := List.cons.inj heq
  obtain ⟨fuel', tail, rfl, htail⟩ := exists_of_uprightWithin (by decide +kernel) hshown
  -- The argument ends at a brace that was there, as the pass puts in none of its own.
  have hbrace : '\x7d' ∈ tail := by
    by_contra hbrace
    rw [uprightWithin_eq_self (not_hasTextWith hbrace)] at htail
    exact hbrace (by simp [htail])
  obtain ⟨body', rest', rfl, hnot'⟩ := List.eq_append_cons_of_mem hbrace
  refine ⟨body', rest', by simp [textMark_eq], hnot', fun hnil => ?_⟩
  obtain ⟨d, body, rfl⟩ := List.exists_cons_of_ne_nil hne
  rw [hnil, List.nil_append] at htail
  obtain ⟨tail', hhead, -⟩ := uprightWithin_cons fuel' '\x7d' rest'
  have hd : '\x7d' = d := (List.cons.inj (hhead.symm.trans htail)).1
  exact hnot (hd ▸ List.mem_cons_self)

/-! ## What is left -/

/-- The first character of a piece opens a text command, or has no part in one. -/
theorem opens_cons :
    Opens P (c :: cs) ↔ (∃ body, c :: cs = textMark ++ body ∧ P body) ∨ Opens P cs := by
  constructor
  · rintro ⟨before, body, heq, hbody⟩
    cases before with
    | nil => exact .inl ⟨body, heq, hbody⟩
    | cons d before => exact .inr ⟨before, body, (List.cons.inj heq).2, hbody⟩
  · rintro (⟨body, heq, hbody⟩ | hopens)
    · exact ⟨[], body, heq, hbody⟩
    · exact hopens.append [c]

/-- Without a backslash no command is opened. -/
theorem opens_letters_append {letters : List Char} (h : '\x5c' ∉ letters) :
    Opens P (letters ++ body) ↔ Opens P body := by
  induction letters with
  | nil => rfl
  | cons c letters ih =>
    obtain ⟨hc, hletters⟩ := not_or.1 (mt List.mem_cons.2 h)
    rw [List.cons_append, opens_cons, ih hletters]
    refine or_iff_right ?_
    rintro ⟨body', heq, -⟩
    rw [textMark_eq, List.cons_append] at heq
    exact hc (List.cons.inj heq).1.symm

/-- What is put in for a command opens no other. -/
theorem opens_uprightMark_append : Opens P (uprightMark ++ body) ↔ Opens P body := by
  have hmark : uprightMark = '\x5c' :: "mathrm\x7b".toList := by decide +kernel
  have hnone : ¬ ∃ body', uprightMark ++ body = textMark ++ body' ∧ P body' :=
    fun ⟨_, heq, _⟩ => uprightMark_append_ne _ _ heq
  rw [hmark, List.cons_append] at hnone ⊢
  rw [opens_cons, opens_letters_append (by decide +kernel)]
  exact or_iff_right hnone

/-- A command is opened in the argument of another if the argument opens it. -/
theorem opens_textMark_append : Opens (Opens P) (textMark ++ body) ↔ Opens P body := by
  constructor
  · rintro ⟨before, body', heq, hopens⟩
    have hsuffix : body' <:+ body := by
      refine List.suffix_of_suffix_length_le (heq ▸ List.suffix_append _ _)
        (List.suffix_append textMark body) ?_
      have hlength := congrArg List.length heq
      simp only [List.length_append] at hlength
      omega
    obtain ⟨more, rfl⟩ := hsuffix
    exact hopens.append more
  · exact fun hopens => ⟨[], body, rfl, hopens⟩

theorem notMem_uprightMark : '\x7d' ∉ uprightMark := by decide +kernel

/-- A text command is left by the pass if it stands in the argument of another. -/
theorem hasText_uprightWithin_iff (h : cs.length ≤ fuel) :
    HasText (uprightWithin fuel cs) ↔ NestsText cs := by
  fun_induction uprightWithin fuel cs with
  | case1 cs =>
    rw [List.length_eq_zero_iff.1 (Nat.le_zero.1 h)]
    exact iff_of_false (not_hasTextWith List.not_mem_nil) (not_hasTextWith List.not_mem_nil)
  | case2 =>
    exact iff_of_false (not_hasTextWith List.not_mem_nil) (not_hasTextWith List.not_mem_nil)
  | case3 fuel c cs body rest hcommand ih =>
    -- The piece with the command, then the pieces after it.
    obtain ⟨heq, hnot, -⟩ := textArgument?_eq_some_iff.1 hcommand
    have hlength : rest.length ≤ fuel := by
      have hle := congrArg List.length heq
      simp only [List.length_append, List.length_cons] at hle h
      omega
    have hupright : '\x7d' ∉ uprightMark ++ body := by simp [notMem_uprightMark, hnot]
    have htext : '\x7d' ∉ textMark ++ body := by simp [notMem_textMark, hnot]
    rw [HasText, NestsText, heq, hasTextWith_append hupright, hasTextWith_append htext,
      opens_uprightMark_append, opens_textMark_append, ← HasText, ← NestsText, ih hlength]
  | case4 fuel c cs hnone ih =>
    have hkept : ¬ ∃ body rest, IsCommand (c :: uprightWithin fuel cs) body rest ∧ body ≠ [] := by
      rintro ⟨body, rest, hcommand, -⟩
      obtain ⟨body', rest', hcommand'⟩ := isCommand_of_uprightWithin hcommand
      exact not_isCommand_of_none hnone hcommand'
    have hnone' : ¬ ∃ body rest, IsCommand (c :: cs) body rest ∧ Opens (· ≠ []) body :=
      fun ⟨_, _, hcommand, _⟩ => not_isCommand_of_none hnone hcommand
    rw [HasText, NestsText, hasTextWith_cons fun _ => id, hasTextWith_cons fun _ => Opens.ne_nil,
      or_iff_right hkept, or_iff_right hnone']
    exact ih (Nat.le_of_succ_le_succ h)

/-- A formula with its text as upright letters has a text command in it, and would be changed by
    a second pass, if a text command stood in the argument of another, and only then. -/
theorem hasText_uprightText_iff (cs : List Char) :
    (HasText (uprightText cs) ↔ NestsText cs)
      ∧ (uprightText (uprightText cs) = uprightText cs ↔ ¬ NestsText cs) := by
  have hleft : HasText (uprightText cs) ↔ NestsText cs := hasText_uprightWithin_iff (Nat.le_refl _)
  refine ⟨hleft, ?_⟩
  rw [← hleft]
  exact uprightWithin_eq_self_iff (Nat.le_refl _)

/-- One command in the argument of another is left. -/
theorem hasText_uprightText_nested :
    HasText (uprightText "\\text\x7b\\text\x7ba\x7d\x7d".toList)
      ∧ uprightText (uprightText "\\text\x7b\\text\x7ba\x7d\x7d".toList)
        ≠ uprightText "\\text\x7b\\text\x7ba\x7d\x7d".toList :=
  ⟨⟨uprightMark, ['a'], ['\x7d'], by decide +kernel, by decide, by decide⟩, by decide +kernel⟩

end Manuscript.Formula
