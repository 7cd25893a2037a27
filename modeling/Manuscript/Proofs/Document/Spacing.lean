import Manuscript.Document.Spacing
import Mathlib.Data.Set.Card

/-!
# Kinds in turn

A coordinator counts breaks and remembers the kind seen last, and decides from these two
whether a kind gives a spacer. What it remembers is a matter of the kinds that it has seen
(`Recalls`): it counts a break if the last of them is blank and not all are. This holds of the
start and is kept by every kind (`Recalls.observe`), but not every state that one might make up
is of this form.

So a spacer comes where a blank kind follows another one, and nowhere else. Blank kinds in a row
that do not begin the sequence give one spacer, at the first of them.

* `getElem?_given`: what a kind gives is decided by the kinds before it;
* `exists_last`, `IsRun.last_eq`: at each spacer one run of blank kinds begins;
* `given_iff`: the spacers of a sequence of kinds, and what is remembered after it.
-/

namespace Manuscript.Document.Coordinator

variable {c : Coordinator} {kinds : List String}

/-! ## What is remembered -/

/-- The last kind of a sequence is blank, and not all of its kinds are. -/
def EndsInBreak (kinds : List String) : Prop :=
  kinds.getLast? = some blankKind ∧ ∃ kind ∈ kinds, kind ≠ blankKind

/-- A coordinator that has seen some kinds, from the start on. -/
structure Recalls (c : Coordinator) (kinds : List String) : Prop where
  last_eq : c.last = kinds.getLast?
  breaks_eq_one : EndsInBreak kinds → c.breaks = 1
  breaks_eq_zero : ¬ EndsInBreak kinds → c.breaks = 0

theorem Recalls.breaks_eq_one_iff (h : Recalls c kinds) : c.breaks = 1 ↔ EndsInBreak kinds := by
  refine ⟨fun hone => ?_, h.breaks_eq_one⟩
  by_contra hnot
  exact absurd (hone.symm.trans (h.breaks_eq_zero hnot)) (by decide)

theorem Recalls.breaks_eq_zero_iff (h : Recalls c kinds) :
    c.breaks = 0 ↔ ¬ EndsInBreak kinds :=
  ⟨fun hzero hbreak => absurd (hzero.symm.trans (h.breaks_eq_one hbreak)) (by decide),
    h.breaks_eq_zero⟩

theorem not_endsInBreak_of_ne (h : kinds.getLast? ≠ some blankKind) : ¬ EndsInBreak kinds :=
  fun hbreak => h hbreak.1

theorem endsInBreak_append_blankKind :
    EndsInBreak (kinds ++ [blankKind]) ↔ ∃ kind ∈ kinds, kind ≠ blankKind := by
  simp [EndsInBreak]

theorem recalls_nil : Recalls {} [] :=
  ⟨rfl, fun h => absurd h.1 (by simp), fun _ => rfl⟩

/-- One kind more. It gives a spacer if it is blank and the kind before it is not. -/
theorem Recalls.observe (h : Recalls c kinds) (kind : String) :
    Recalls (c.observe kind).2 (kinds ++ [kind])
      ∧ ∀ spacing, (c.observe kind).1 = some spacing ↔
        spacing = spacerSpacing ∧ kind = blankKind
          ∧ ∃ before ∈ kinds.getLast?, before ≠ blankKind := by
  by_cases hkind : kind = blankKind
  · subst hkind
    cases hlast : kinds.getLast? with
    | none =>
      -- The sequence begins here.
      obtain rfl : kinds = [] := List.getLast?_eq_none_iff.1 hlast
      rw [observe_blankKind (by simp [h.last_eq])]
      refine ⟨⟨rfl, fun hbreak => ?_, fun _ => ?_⟩, by simp⟩
      · obtain ⟨_, hmem, -⟩ := endsInBreak_append_blankKind.1 hbreak
        exact absurd hmem List.not_mem_nil
      · exact h.breaks_eq_zero (not_endsInBreak_of_ne (by simp))
    | some before =>
      by_cases hbefore : before = blankKind
      · -- A run of blank kinds goes on.
        subst hbefore
        rw [observe_blankKind (by simp [h.last_eq, hlast])]
        refine ⟨⟨by simp, fun hbreak => ?_, fun hbreak => ?_⟩, by simp⟩
        · exact h.breaks_eq_one ⟨hlast, endsInBreak_append_blankKind.1 hbreak⟩
        · exact h.breaks_eq_zero fun hends => hbreak (endsInBreak_append_blankKind.2 hends.2)
      · -- A run of blank kinds begins.
        have hbreaks : c.breaks = 0 :=
          h.breaks_eq_zero (not_endsInBreak_of_ne (by simp [hlast, hbefore]))
        rw [observe_blankKind_of_ne hbreaks (h.last_eq.trans hlast) hbefore]
        refine ⟨⟨by simp, fun _ => rfl, fun hbreak => ?_⟩, by simp [eq_comm, hbefore]⟩
        refine absurd (endsInBreak_append_blankKind.2 ⟨before, ?_, hbefore⟩) hbreak
        exact List.mem_of_getLast? hlast
  · rw [observe_of_ne c hkind]
    refine ⟨⟨by simp, fun hbreak => ?_, fun _ => rfl⟩, by simp [hkind]⟩
    exact absurd hbreak (not_endsInBreak_of_ne (by simp [hkind]))

/-! ## A sequence of kinds -/

/-- What a coordinator gives to the kinds of a sequence, one after the other. -/
def given : Coordinator → List String → List (Option Spacing)
  | _, [] => []
  | c, kind :: rest => (c.observe kind).1 :: given (c.observe kind).2 rest

/-- A coordinator that has seen the kinds of a sequence, one after the other. -/
def seen (c : Coordinator) (kinds : List String) : Coordinator :=
  kinds.foldl (fun c kind => (c.observe kind).2) c

theorem length_given (c : Coordinator) (kinds : List String) :
    (given c kinds).length = kinds.length := by
  induction kinds generalizing c with
  | nil => rfl
  | cons kind rest ih => rw [given, List.length_cons, List.length_cons, ih]

/-- What a kind gives is decided by the kinds before it. -/
theorem getElem?_given (c : Coordinator) (kinds : List String) (i : Nat) :
    (given c kinds)[i]? = kinds[i]?.map fun kind => ((c.seen (kinds.take i)).observe kind).1 := by
  induction kinds generalizing c i with
  | nil => rfl
  | cons kind rest ih =>
    cases i with
    | zero => rfl
    | succ i => exact ih (c.observe kind).2 i

/-- From the start on, what is remembered is what has been seen. -/
theorem recalls_seen (kinds : List String) : Recalls (seen {} kinds) kinds := by
  induction kinds using List.reverseRecOn with
  | nil => exact recalls_nil
  | append_singleton kinds kind ih =>
    rw [seen, List.foldl_append]
    exact (ih.observe kind).1

/-! ## Breaks -/

/-- At a place there is a blank kind, and right before it another kind. -/
def IsBreak (kinds : List String) (i : Nat) : Prop :=
  i ≠ 0 ∧ kinds[i]? = some blankKind ∧ kinds[i - 1]? ≠ some blankKind

/-- The kind right before a place. -/
theorem getLast?_take_succ {i : Nat} (h : i < kinds.length) :
    (kinds.take (i + 1)).getLast? = kinds[i]? := by
  rw [List.getLast?_take, if_neg (Nat.succ_ne_zero i), Nat.add_sub_cancel,
    List.getElem?_eq_getElem h, Option.some_or]

/-- The spacers of a sequence are at its breaks. -/
theorem getElem?_given_eq_some_iff {i : Nat} {spacing : Spacing} :
    (given {} kinds)[i]? = some (some spacing) ↔ spacing = spacerSpacing ∧ IsBreak kinds i := by
  have hgives (kind : String) := ((recalls_seen (kinds.take i)).observe kind).2 spacing
  simp only [getElem?_given, Option.map_eq_some_iff, hgives, IsBreak]
  cases i with
  | zero => simp
  | succ i =>
    rw [Nat.add_sub_cancel]
    constructor
    · rintro ⟨_, hkind, hspacing, rfl, before, hbefore, hne⟩
      obtain ⟨hlt, -⟩ := List.getElem?_eq_some_iff.1 hkind
      rw [getLast?_take_succ (Nat.lt_of_succ_lt hlt)] at hbefore
      rw [hbefore]
      exact ⟨hspacing, Nat.succ_ne_zero i, hkind, fun heq => hne (Option.some.inj heq)⟩
    · rintro ⟨hspacing, -, hkind, hne⟩
      obtain ⟨hlt, -⟩ := List.getElem?_eq_some_iff.1 hkind
      have hlt' : i < kinds.length := Nat.lt_of_succ_lt hlt
      rw [List.getElem?_eq_getElem hlt'] at hne
      refine ⟨blankKind, hkind, hspacing, rfl, kinds[i], ?_, fun heq => hne (congrArg some heq)⟩
      rw [getLast?_take_succ hlt', List.getElem?_eq_getElem hlt']
      rfl

/-! ## Runs -/

/-- Blank kinds in a row, from one place to another, with none more on either side. -/
structure IsRun (kinds : List String) (first last : Nat) : Prop where
  le : first ≤ last
  blank : ∀ i, first ≤ i → i ≤ last → kinds[i]? = some blankKind
  left : first ≠ 0 → kinds[first - 1]? ≠ some blankKind
  right : kinds[last + 1]? ≠ some blankKind

/-- A run that does not begin the sequence begins at a break. -/
theorem IsRun.isBreak {first last : Nat} (h : IsRun kinds first last) (hfirst : first ≠ 0) :
    IsBreak kinds first :=
  ⟨hfirst, h.blank first (Nat.le_refl _) h.le, h.left hfirst⟩

/-- Runs that begin at one place are one run. -/
theorem IsRun.last_eq {first last last' : Nat} (h : IsRun kinds first last)
    (h' : IsRun kinds first last') : last = last' := by
  have hle : ∀ {last last'}, IsRun kinds first last → IsRun kinds first last' → last ≤ last' := by
    intro last last' h h'
    by_contra hlt
    exact h'.right (h.blank (last' + 1) (Nat.le_succ_of_le h'.le) (by omega))
  exact Nat.le_antisymm (hle h h') (hle h' h)

/-- A run begins at each break. -/
theorem IsBreak.exists_last {first : Nat} (h : IsBreak kinds first) :
    ∃ last, IsRun kinds first last := by
  -- The kinds are all blank up to some place, at the end of the sequence at the latest.
  have hends : ∃ n, kinds[first + n + 1]? ≠ some blankKind := by
    refine ⟨kinds.length, ?_⟩
    rw [List.getElem?_eq_none (by omega)]
    exact (Option.some_ne_none blankKind).symm
  classical
  refine ⟨first + Nat.find hends, Nat.le_add_right _ _, fun i hfirst hlast => ?_, fun _ => h.2.2,
    Nat.find_spec hends⟩
  rcases Nat.eq_or_lt_of_le hfirst with rfl | hlt
  · exact h.2.1
  · have hmin := Nat.find_min hends (m := i - first - 1) (by omega)
    rw [not_not] at hmin
    rwa [show first + (i - first - 1) + 1 = i by omega] at hmin

/-- The places of a list where something holds are as many as the members that it holds of. -/
theorem encard_getElem? {α : Type} (p : α → Bool) (xs : List α) :
    {i : Nat | ∃ x, xs[i]? = some x ∧ p x = true}.encard = xs.countP p := by
  induction xs with
  | nil => simp
  | cons x xs ih =>
    have hcons : {i : Nat | ∃ y, (x :: xs)[i]? = some y ∧ p y = true}
        = {i | i = 0 ∧ p x = true} ∪ Nat.succ '' {i | ∃ y, xs[i]? = some y ∧ p y = true} := by
      ext i
      cases i <;> simp
    have hdisjoint : Disjoint {i : Nat | i = 0 ∧ p x = true}
        (Nat.succ '' {i | ∃ y, xs[i]? = some y ∧ p y = true}) := by
      rw [Set.disjoint_left]
      rintro _ ⟨rfl, -⟩ ⟨i, -, hi⟩
      exact Nat.succ_ne_zero i hi
    rw [hcons, Set.encard_union_eq hdisjoint, Nat.succ_injective.encard_image, ih,
      List.countP_cons]
    cases p x <;> simp [add_comm]

/-- There are as many spacers as breaks. -/
theorem countP_given (kinds : List String) :
    (given {} kinds).countP Option.isSome = {i | IsBreak kinds i}.ncard := by
  have hbreaks : {i | IsBreak kinds i}
      = {i | ∃ x, (given {} kinds)[i]? = some x ∧ x.isSome = true} := by
    ext i
    simp [Option.isSome_iff_exists, getElem?_given_eq_some_iff]
  rw [hbreaks, Set.ncard_def, encard_getElem?, ENat.toNat_natCast]

/-- There are as many breaks as runs that do not begin the sequence. -/
theorem ncard_isBreak (kinds : List String) :
    {i | IsBreak kinds i}.ncard = {r : Nat × Nat | IsRun kinds r.1 r.2 ∧ r.1 ≠ 0}.ncard := by
  have himage : Prod.fst '' {r : Nat × Nat | IsRun kinds r.1 r.2 ∧ r.1 ≠ 0}
      = {i | IsBreak kinds i} := by
    ext first
    constructor
    · rintro ⟨r, ⟨hrun, hfirst⟩, rfl⟩
      exact hrun.isBreak hfirst
    · intro hbreak
      obtain ⟨last, hrun⟩ := hbreak.exists_last
      exact ⟨(first, last), ⟨hrun, hbreak.1⟩, rfl⟩
  rw [← himage]
  refine Set.InjOn.ncard_image ?_
  rintro ⟨first, last⟩ ⟨hrun, -⟩ ⟨first', last'⟩ ⟨hrun', -⟩ heq
  obtain rfl : first = first' := heq
  exact congrArg (Prod.mk first) (hrun.last_eq hrun')

/-- Of the kinds of a sequence, seen from the start on, those give a spacer that are blank, not
    the first, and follow a kind that is not blank; so there are as many spacers as runs of
    blank kinds that do not begin the sequence. After the sequence, whatever it was, its last
    kind is remembered, and one break if that is blank and some kind before it was not, and
    none otherwise. -/
theorem given_iff (kinds : List String) :
    (given {} kinds).length = kinds.length
      ∧ (∀ i spacing, (given {} kinds)[i]? = some (some spacing) ↔
        spacing = spacerSpacing ∧ i ≠ 0 ∧ kinds[i]? = some blankKind
          ∧ kinds[i - 1]? ≠ some blankKind)
      ∧ (given {} kinds).countP Option.isSome
        = {r : Nat × Nat | IsRun kinds r.1 r.2 ∧ r.1 ≠ 0}.ncard
      ∧ (seen {} kinds).last = kinds.getLast?
      ∧ ((seen {} kinds).breaks = 1 ↔ EndsInBreak kinds)
      ∧ ((seen {} kinds).breaks = 0 ↔ ¬ EndsInBreak kinds) := by
  have hrecalls := recalls_seen kinds
  exact ⟨length_given {} kinds, fun _ _ => getElem?_given_eq_some_iff,
    (countP_given kinds).trans (ncard_isBreak kinds), hrecalls.last_eq, hrecalls.breaks_eq_one_iff,
    hrecalls.breaks_eq_zero_iff⟩

example : (given {} ["space", "space", "paragraph", "space", "space", "list", "space"]).map
    Option.isSome = [false, false, false, true, false, false, true] := by decide

end Manuscript.Document.Coordinator
