import Manuscript.Inline.Span
import Mathlib.Data.List.TakeWhile

/-!
# The cut of a text

There is one way to cut a text into spans and the plain text between them, said here
without the scanner (`IsCut`): from the end of a span on, the next span starts at the
first position where a span of any kind fits (`Fits`), and among the kinds that fit
there the one that is tried first is taken (`Leads`). The scanner finds that cut.

* `span?_eq_some_iff`: the scanner finds a span exactly where one leads;
* `isCut_iff`: a text has one cut, which the scanner gives;
* `splitRuns_scan`: the segments worth showing are those of the cut, without the blank
  ones.
-/

namespace Manuscript.Inline

open Manuscript.Text

/-! ## Spans -/

namespace Kind

/-- The delimiters of a kind of span; plain text has none. -/
def marks : Kind → List (List Char)
  | plain => []
  | displayMath => [['$', '$']]
  | inlineMath => [['$']]
  | bold => [['*', '*']]
  | italic => [['*'], ['_']]
  | code => [['\x60']]

/-- The order in which the kinds are tried. -/
def rank : Kind → Nat
  | displayMath => 0
  | inlineMath => 1
  | bold => 2
  | italic => 3
  | code => 4
  | plain => 5

theorem rank_injective {k l : Kind} (h : k.rank = l.rank) : k = l := by
  cases k <;> cases l <;> simp_all [rank]

end Kind

/-- Whether `body` may stand between a delimiter and its repetition, which `rest`
    follows. In a formula it has no dollar sign and is not empty; elsewhere it is on one
    line, and nothing shorter stands before such a delimiter. -/
def IsBody (kind : Kind) (mark body rest : List Char) : Prop :=
  if kind.isMath then '$' ∉ body ∧ body ≠ []
  else '\n' ∉ body ∧
    ∀ short after, short ++ mark ++ after = body ++ mark ++ rest → body.length ≤ short.length

/-- A span of some kind at the start of a text. -/
structure Fits (cs : List Char) (kind : Kind) (mark body rest : List Char) : Prop where
  mark_mem : mark ∈ kind.marks
  text_eq : cs = mark ++ body ++ mark ++ rest
  isBody : IsBody kind mark body rest

/-- The span at the start of a text that is taken: no kind tried before fits. -/
structure Leads (cs : List Char) (kind : Kind) (mark body rest : List Char) : Prop where
  fits : Fits cs kind mark body rest
  first : ∀ {k m b r}, Fits cs k m b r → kind.rank ≤ k.rank

/-- A text that starts with no span. -/
def Bare (cs : List Char) : Prop := ∀ kind mark body rest, ¬ Fits cs kind mark body rest

/-! ## Cuts -/

/-- The segment of a span. Between delimiters other than those of a formula, blank text
    is plain, and so are the delimiters. -/
def spanSegment (kind : Kind) (mark body : List Char) : Segment :=
  ⟨if !kind.isMath && allBlank body then .plain else kind, mark ++ body ++ mark⟩

/-- The segment of the text between two spans, if there is any. -/
def gap (cs : List Char) : List Segment := if cs = [] then [] else [⟨.plain, cs⟩]

/-- The ways to cut a text. -/
inductive IsCut : List Char → List Segment → Prop
  | last {cs : List Char} : (∀ i, i < cs.length → Bare (cs.drop i)) → IsCut cs (gap cs)
  | span {before cs mark body rest : List Char} {kind : Kind} {segments : List Segment} :
      (∀ i, i < before.length → Bare ((before ++ cs).drop i)) →
      Leads cs kind mark body rest → IsCut rest segments →
      IsCut (before ++ cs) (gap before ++ spanSegment kind mark body :: segments)

/-! ## The span forms -/

theorem strip?_eq_some_iff {mark cs rest : List Char} :
    strip? mark cs = some rest ↔ cs = mark ++ rest := by
  induction mark generalizing cs with
  | nil => simp [strip?]
  | cons d ds ih =>
    cases cs with
    | nil => simp [strip?]
    | cons c cs =>
      by_cases h : d = c
      · simp [strip?, h, ih]
      · simp [strip?, h, Ne.symm h]

theorem mathBody_eq_some_iff {mark cs body rest : List Char} :
    mathBody ('$' :: mark) cs = some (body, rest) ↔
      cs = body ++ '$' :: mark ++ rest ∧ '$' ∉ body ∧ body ≠ [] := by
  constructor
  · intro h
    simp only [mathBody] at h
    split at h
    · cases h
    · rename_i hne
      obtain ⟨after, hs, he⟩ := Option.map_eq_some_iff.1 h
      cases he
      refine ⟨?_, fun hm => ?_, by simpa using hne⟩
      · rw [List.append_assoc, ← strip?_eq_some_iff.1 hs, List.takeWhile_append_dropWhile]
      · simpa using List.mem_takeWhile_imp hm
  · rintro ⟨rfl, hd, hne⟩
    have hb : ∀ c ∈ body, (c != '$') = true := fun c hc => by
      simpa using ne_of_mem_of_not_mem hc hd
    rw [List.append_assoc]
    simp only [mathBody, List.takeWhile_append_of_pos hb, List.dropWhile_append_of_pos hb]
    simp [hne, strip?_eq_some_iff]

/-- The body found is the shortest that the mark ends. -/
theorem shortBody_eq_some_iff {mark : List Char} (hm : mark ≠ []) {cs body rest : List Char} :
    shortBody mark cs = some (body, rest) ↔
      cs = body ++ mark ++ rest ∧ '\n' ∉ body ∧
        ∀ short after, short ++ mark ++ after = cs → body.length ≤ short.length := by
  induction cs generalizing body with
  | nil => simp [shortBody, hm, strip?_eq_some_iff]
  | cons c cs ih =>
    rw [shortBody]
    split
    · rename_i after hs
      rw [strip?_eq_some_iff] at hs
      constructor
      · rintro ⟨⟩
        exact ⟨by simpa using hs, by simp, by simp⟩
      · rintro ⟨he, -, hle⟩
        have hb : body = [] := by simpa using hle [] after (by simpa using hs.symm)
        subst hb
        rw [hs, List.nil_append] at he
        rw [List.append_cancel_left he]
    · rename_i hs
      -- The mark does not stand here, so every body starts with this character.
      have hcons : ∀ {b after}, b ++ mark ++ after = c :: cs → ∃ tail, b = c :: tail := by
        intro b after he
        cases b with
        | nil => rw [strip?_eq_some_iff.2 (by simpa using he.symm)] at hs; cases hs
        | cons d tail =>
          rw [List.cons_append, List.cons_append] at he
          exact ⟨tail, by rw [(List.cons.inj he).1]⟩
      split
      · rename_i hc
        subst hc
        refine ⟨by simp, fun ⟨he, hn, _⟩ => ?_⟩
        obtain ⟨tail, rfl⟩ := hcons he.symm
        simp at hn
      · rename_i hc
        constructor
        · intro h
          obtain ⟨⟨tail, after⟩, ht, he⟩ := Option.map_eq_some_iff.1 h
          cases he
          obtain ⟨rfl, hn, hle⟩ := ih.1 ht
          refine ⟨by simp, by simp [Ne.symm hc, hn], fun short after he => ?_⟩
          obtain ⟨tail', rfl⟩ := hcons he
          simpa using hle tail' after (by simpa using he)
        · rintro ⟨he, hn, hle⟩
          obtain ⟨tail, rfl⟩ := hcons he.symm
          simp only [List.cons_append, List.cons.injEq, true_and] at he
          refine Option.map_eq_some_iff.2
            ⟨(tail, rest), ih.2 ⟨he, ?_, fun short after hs => ?_⟩, rfl⟩
          · exact fun hm => hn (List.mem_cons_of_mem _ hm)
          · simpa using hle (c :: short) after (by simp [← hs])

/-- A form reads the bodies that may stand between its delimiters. -/
theorem body_eq_some_iff {f : Form} (hf : f ∈ forms) {cs body rest : List Char} :
    f.body cs = some (body, rest) ↔
      cs = body ++ f.mark ++ rest ∧ IsBody f.kind f.mark body rest := by
  simp only [forms, List.mem_cons, List.not_mem_nil, or_false] at hf
  have short : ∀ {mark : List Char}, mark ≠ [] →
      (shortBody mark cs = some (body, rest) ↔ cs = body ++ mark ++ rest ∧ '\n' ∉ body ∧
        ∀ short after, short ++ mark ++ after = body ++ mark ++ rest →
          body.length ≤ short.length) := by
    intro mark hm
    rw [shortBody_eq_some_iff hm]
    refine and_congr_right fun he => ?_
    rw [← he]
  rcases hf with rfl | rfl | rfl | rfl | rfl | rfl
  · exact mathBody_eq_some_iff
  · exact mathBody_eq_some_iff
  all_goals exact short (by simp)

theorem mem_marks_iff {kind : Kind} {mark : List Char} :
    mark ∈ kind.marks ↔ ∃ f ∈ forms, f.kind = kind ∧ f.mark = mark := by
  cases kind <;> simp [Kind.marks, forms, eq_comm]

/-- A form finds the spans of its kind between its delimiters. -/
theorem match?_eq_some_iff {f : Form} (hf : f ∈ forms) {cs rest : List Char} {s : Segment} :
    f.match? cs = some (s, rest) ↔
      ∃ body, Fits cs f.kind f.mark body rest ∧ s = ⟨f.kind, f.mark ++ body ++ f.mark⟩ := by
  simp only [Form.match?, Option.bind_eq_some_iff, Option.map_eq_some_iff, strip?_eq_some_iff]
  constructor
  · rintro ⟨opened, rfl, ⟨body, after⟩, hb, he⟩
    cases he
    obtain ⟨rfl, hbody⟩ := (body_eq_some_iff hf).1 hb
    exact ⟨body, ⟨mem_marks_iff.2 ⟨f, hf, rfl, rfl⟩, by simp, hbody⟩, rfl⟩
  · rintro ⟨body, h, rfl⟩
    exact ⟨body ++ f.mark ++ rest, by simpa using h.text_eq, (body, rest),
      (body_eq_some_iff hf).2 ⟨rfl, h.isBody⟩, rfl⟩

/-! ## The span that leads -/

/-- Both delimiters of italic text do not stand at one place, and other kinds have one
    delimiter. -/
theorem Fits.mark_eq {cs : List Char} {kind : Kind} {m m' b b' r r' : List Char}
    (h : Fits cs kind m b r) (h' : Fits cs kind m' b' r') : m = m' := by
  have hm := h.mark_mem
  have hm' := h'.mark_mem
  have he := h.text_eq.symm.trans h'.text_eq
  cases kind <;> simp only [Kind.marks, List.mem_cons, List.not_mem_nil, or_false] at hm hm'
  case italic => rcases hm with rfl | rfl <;> rcases hm' with rfl | rfl <;> simp_all
  all_goals rw [hm, hm']

/-- A kind fits in one way. -/
theorem Fits.eq {cs : List Char} {kind : Kind} {m m' b b' r r' : List Char}
    (h : Fits cs kind m b r) (h' : Fits cs kind m' b' r') : m = m' ∧ b = b' ∧ r = r' := by
  have hm := h.mark_eq h'
  subst hm
  obtain ⟨f, hf, rfl, rfl⟩ := mem_marks_iff.1 h.mark_mem
  have hb := (match?_eq_some_iff hf).2 ⟨b, h, rfl⟩
  rw [(match?_eq_some_iff hf).2 ⟨b', h', rfl⟩] at hb
  simp only [Option.some.injEq, Prod.mk.injEq, Segment.mk.injEq, true_and] at hb
  exact ⟨rfl, List.append_cancel_left (List.append_cancel_right hb.1.symm), hb.2.symm⟩

theorem forms_pairwise : forms.Pairwise fun f g => f.kind.rank ≤ g.kind.rank := by
  simp [forms, Kind.rank]

/-- The scanner takes the span that leads. -/
theorem leads_of_span? {cs rest : List Char} {s : Segment} (h : span? cs = some (s, rest)) :
    ∃ kind mark body, Leads cs kind mark body rest ∧ s = ⟨kind, mark ++ body ++ mark⟩ := by
  obtain ⟨before, f, after, he, hm, hnone⟩ := List.findSome?_eq_some_iff.1 h
  have hf : f ∈ forms := by simp [he]
  obtain ⟨body, hfit, rfl⟩ := (match?_eq_some_iff hf).1 hm
  refine ⟨f.kind, f.mark, body, ⟨hfit, fun {k m b r} h' => ?_⟩, rfl⟩
  obtain ⟨g, hg, rfl, rfl⟩ := mem_marks_iff.1 h'.mark_mem
  have hp := forms_pairwise
  rw [he, List.pairwise_append, List.pairwise_cons] at hp
  rw [he, List.mem_append, List.mem_cons] at hg
  rcases hg with hg | rfl | hg
  · -- A form tried before would have been taken.
    have hs := (match?_eq_some_iff (he ▸ List.mem_append_left _ hg)).2 ⟨b, h', rfl⟩
    rw [hnone g hg] at hs
    cases hs
  · exact Nat.le_refl _
  · exact hp.2.1.1 g hg

theorem span?_eq_none_iff {cs : List Char} : span? cs = none ↔ Bare cs := by
  rw [span?, List.findSome?_eq_none_iff]
  constructor
  · intro h kind mark body rest hfit
    obtain ⟨f, hf, rfl, rfl⟩ := mem_marks_iff.1 hfit.mark_mem
    have hs := (match?_eq_some_iff hf).2 ⟨body, hfit, rfl⟩
    rw [h f hf] at hs
    cases hs
  · intro h f hf
    rw [Option.eq_none_iff_forall_ne_some]
    rintro ⟨s, rest⟩ hs
    obtain ⟨body, hfit, -⟩ := (match?_eq_some_iff hf).1 hs
    exact h _ _ _ _ hfit

/-- One span leads at most. -/
theorem Leads.eq {cs m m' b b' r r' : List Char} {k k' : Kind} (h : Leads cs k m b r)
    (h' : Leads cs k' m' b' r') : k = k' ∧ m = m' ∧ b = b' ∧ r = r' := by
  have hk := Kind.rank_injective (Nat.le_antisymm (h.first h'.fits) (h'.first h.fits))
  subst hk
  exact ⟨rfl, h.fits.eq h'.fits⟩

theorem Leads.span?_eq {cs mark body rest : List Char} {kind : Kind}
    (h : Leads cs kind mark body rest) :
    span? cs = some (⟨kind, mark ++ body ++ mark⟩, rest) := by
  cases hs : span? cs with
  | none => exact absurd h.fits (span?_eq_none_iff.1 hs _ _ _ _)
  | some found =>
    obtain ⟨k, m, b, h', he⟩ := leads_of_span? hs
    obtain ⟨rfl, rfl, rfl, hr⟩ := h.eq h'
    rw [hr, ← he]

/-! ## The scan -/

theorem Fits.mark_ne_nil {cs mark body rest : List Char} {kind : Kind}
    (h : Fits cs kind mark body rest) : mark ≠ [] := by
  have hm := h.mark_mem
  cases kind <;> simp only [Kind.marks, List.mem_cons, List.not_mem_nil, or_false] at hm
  case italic => rcases hm with rfl | rfl <;> simp
  all_goals simp [hm]

theorem Fits.rest_length_lt {cs mark body rest : List Char} {kind : Kind}
    (h : Fits cs kind mark body rest) : rest.length < cs.length := by
  have hm := List.length_pos_iff.2 h.mark_ne_nil
  rw [h.text_eq]
  simp only [List.length_append]
  omega

theorem rest_length_lt_of_span? {cs rest : List Char} {s : Segment}
    (h : span? cs = some (s, rest)) : rest.length < cs.length := by
  obtain ⟨kind, mark, body, hl, -⟩ := leads_of_span? h
  exact hl.fits.rest_length_lt

/-- The cut does not depend on the fuel if there is enough. -/
theorem segmentsWithin_eq {m n : Nat} {cs : List Char} (hm : cs.length ≤ m)
    (hn : cs.length ≤ n) : segmentsWithin m cs = segmentsWithin n cs := by
  induction m generalizing n cs with
  | zero =>
    rw [List.length_eq_zero_iff.1 (Nat.le_zero.1 hm)]
    cases n <;> rfl
  | succ m ih =>
    cases cs with
    | nil => cases n <;> rfl
    | cons c cs =>
      cases n with
      | zero => simp at hn
      | succ n =>
        rw [List.length_cons] at hm hn
        simp only [segmentsWithin]
        split
        · rename_i hs
          have hlt := rest_length_lt_of_span? hs
          rw [List.length_cons] at hlt
          rw [ih (n := n) (by omega) (by omega)]
        · rw [ih (n := n) (by omega) (by omega)]

@[simp] theorem segments_nil : segments [] = [] := rfl

/-- Where a span leads, the scanner takes it and goes on after it. -/
theorem Leads.segments_eq {cs mark body rest : List Char} {kind : Kind}
    (h : Leads cs kind mark body rest) :
    segments cs = ⟨kind, mark ++ body ++ mark⟩ :: segments rest := by
  have hlt := h.fits.rest_length_lt
  cases cs with
  | nil => simp at hlt
  | cons c cs =>
    rw [List.length_cons] at hlt
    simp only [segments, List.length_cons, segmentsWithin, h.span?_eq]
    rw [segmentsWithin_eq (by omega) (Nat.le_refl _)]

/-- Where no span starts, the scanner goes on one character further. -/
theorem Bare.segments_eq {c : Char} {cs : List Char} (h : Bare (c :: cs)) :
    segments (c :: cs) = consPlain c (segments cs) := by
  simp only [segments, List.length_cons, segmentsWithin, span?_eq_none_iff.2 h]

theorem consPlain_gap (c : Char) (cs : List Char) : consPlain c (gap cs) = gap (c :: cs) := by
  cases cs <;> simp [gap, consPlain]

theorem consPlain_gap_append (c : Char) (cs : List Char) {s : Segment} (hs : s.kind ≠ .plain)
    (rest : List Segment) :
    consPlain c (gap cs ++ s :: rest) = gap (c :: cs) ++ s :: rest := by
  cases cs with
  | nil =>
    obtain ⟨kind, raw⟩ := s
    cases kind <;> simp_all [gap, consPlain]
  | cons d ds => simp [gap, consPlain]

theorem Fits.kind_ne_plain {cs mark body rest : List Char} {kind : Kind}
    (h : Fits cs kind mark body rest) : kind ≠ .plain := by
  rintro rfl
  simpa [Kind.marks] using h.mark_mem

theorem segments_of_bare {cs : List Char} (h : ∀ i, i < cs.length → Bare (cs.drop i)) :
    segments cs = gap cs := by
  induction cs with
  | nil => simp [gap]
  | cons c cs ih =>
    rw [(h 0 (by simp)).segments_eq, ih fun i hi => h (i + 1) (by simpa using hi), consPlain_gap]

theorem segments_append {before cs mark body rest : List Char} {kind : Kind}
    (hb : ∀ i, i < before.length → Bare ((before ++ cs).drop i))
    (h : Leads cs kind mark body rest) :
    segments (before ++ cs) = gap before ++ ⟨kind, mark ++ body ++ mark⟩ :: segments rest := by
  induction before with
  | nil => simpa [gap] using h.segments_eq
  | cons c before ih =>
    have hbare : Bare (c :: (before ++ cs)) := hb 0 (by simp)
    rw [List.cons_append, hbare.segments_eq, ih fun i hi => hb (i + 1) (by simpa using hi),
      consPlain_gap_append c before h.fits.kind_ne_plain]

/-- In every text no span starts at all, or there is a first one. -/
theorem bare_or_leads (cs : List Char) :
    (∀ i, i < cs.length → Bare (cs.drop i)) ∨
      ∃ before tail kind mark body rest, cs = before ++ tail ∧
        (∀ i, i < before.length → Bare (cs.drop i)) ∧ Leads tail kind mark body rest := by
  induction cs with
  | nil => exact .inl fun i hi => absurd hi (Nat.not_lt_zero i)
  | cons c cs ih =>
    cases hs : span? (c :: cs) with
    | some found =>
      obtain ⟨kind, mark, body, h, -⟩ := leads_of_span? hs
      exact .inr ⟨[], c :: cs, kind, mark, body, found.2, rfl, by simp, h⟩
    | none =>
      have hbare : ∀ n, (∀ i, i < n → Bare (cs.drop i)) →
          ∀ i, i < n + 1 → Bare ((c :: cs).drop i) := by
        intro n h i hi
        cases i with
        | zero => exact span?_eq_none_iff.1 hs
        | succ i => exact h i (Nat.lt_of_succ_lt_succ hi)
      rcases ih with h | ⟨before, tail, kind, mark, body, rest, rfl, h, hl⟩
      · exact .inl (hbare _ h)
      · exact .inr ⟨c :: before, tail, kind, mark, body, rest, rfl, hbare _ h, hl⟩

/-! ## Labels -/

/-- The inner text of a span is its body. -/
theorem Fits.inner_eq {cs mark body rest : List Char} {kind : Kind}
    (h : Fits cs kind mark body rest) : Segment.inner ⟨kind, mark ++ body ++ mark⟩ = body := by
  have hw : kind.delimiterWidth = mark.length := by
    have hm := h.mark_mem
    cases kind <;> simp only [Kind.marks, List.mem_cons, List.not_mem_nil, or_false] at hm
    case italic => rcases hm with rfl | rfl <;> rfl
    all_goals rw [hm]; rfl
  simp only [Segment.inner, hw, List.append_assoc, List.drop_left, List.length_append]
  rw [List.take_append_of_le_length (by omega), List.take_of_length_le (by omega)]

theorem Fits.demoted_eq {cs mark body rest : List Char} {kind : Kind}
    (h : Fits cs kind mark body rest) :
    Segment.demoted ⟨kind, mark ++ body ++ mark⟩ = spanSegment kind mark body := by
  simp only [Segment.demoted, h.inner_eq, spanSegment]
  split <;> rfl

theorem map_demoted_gap (cs : List Char) : (gap cs).map Segment.demoted = gap cs := by
  simp only [gap]
  split
  · rfl
  · simp [Segment.demoted]

/-! ## The cut -/

theorem isCut_segments (cs : List Char) : IsCut cs ((segments cs).map Segment.demoted) := by
  induction hn : cs.length using Nat.strongRecOn generalizing cs with
  | ind n ih =>
    rcases bare_or_leads cs with h | ⟨before, tail, kind, mark, body, rest, rfl, hb, h⟩
    · rw [segments_of_bare h, map_demoted_gap]
      exact .last h
    · rw [segments_append hb h, List.map_append, map_demoted_gap, List.map_cons,
        h.fits.demoted_eq]
      have hlt := h.fits.rest_length_lt
      rw [List.length_append] at hn
      exact .span hb h (ih rest.length (by omega) rest rfl)

/-- A text has one cut, which the scanner gives. -/
theorem isCut_iff {cs : List Char} {cut : List Segment} :
    IsCut cs cut ↔ cut = (segments cs).map Segment.demoted := by
  constructor
  · intro h
    induction h with
    | last h => rw [segments_of_bare h, map_demoted_gap]
    | span hb h _ ih =>
      rw [segments_append hb h, List.map_append, map_demoted_gap, List.map_cons,
        h.fits.demoted_eq, ih]
  · rintro rfl
    exact isCut_segments cs

/-- A cut loses nothing. -/
theorem IsCut.flatMap_raw {cs : List Char} {cut : List Segment} (h : IsCut cs cut) :
    cut.flatMap Segment.raw = cs := by
  have hgap : ∀ cs, (gap cs).flatMap Segment.raw = cs := by
    intro cs
    by_cases hc : cs = [] <;> simp [gap, hc]
  induction h with
  | last _ => exact hgap _
  | span _ h _ ih =>
    rw [List.flatMap_append, hgap, List.flatMap_cons, ih, h.fits.text_eq, spanSegment]

/-- Every text is cut in exactly one way: without loss, at the first position where a span
    fits and for the first kind that fits there. The segments worth showing are those of the
    cut that are not blank, in their order. -/
theorem splitRuns_scan (text : List Char) :
    ∃ cut, IsCut text cut ∧ (∀ other, IsCut text other → other = cut) ∧
      cut.flatMap Segment.raw = text ∧
      splitRuns text = cut.filter fun s => !allBlank s.raw := by
  have h := isCut_segments text
  exact ⟨_, h, fun other ho => isCut_iff.1 ho, h.flatMap_raw, rfl⟩

example : splitRuns "a $x$ ** **".toList
    = [⟨.plain, "a ".toList⟩, ⟨.inlineMath, "$x$".toList⟩, ⟨.plain, "** **".toList⟩] := by rfl

end Manuscript.Inline
