import Manuscript.Proofs.Inline.Cut

/-!
# Segments by themselves

A segment is found in a context: the scan has passed what stands before it, and the text after
it was there to close a delimiter. Taken out of the text, it is cut as it was. Whether a body
may stand between two delimiters does not depend on what follows them (`IsBody.congr_rest`). So
a span that fits by itself fits in the text as well, and nothing new comes before a span or
starts inside of plain text when the rest of the text is gone.

* `Leads.alone`: the span that is taken in a text is taken by itself;
* `IsWhole`: what one segment may be;
* `splitRuns_raw`: a segment of a text is cut into itself.
-/

namespace Manuscript.Inline

open Manuscript.Text

/-! ## Spans without their context -/

variable {cs mark body rest : List Char} {kind : Kind}

/-- A body fits between its delimiters whatever follows them. -/
theorem IsBody.congr_rest (h : IsBody kind mark body rest) (rest' : List Char) :
    IsBody kind mark body rest' := by
  unfold IsBody at h ⊢
  split
  · next hmath =>
    rw [if_pos hmath] at h
    exact h
  · next hmath =>
    rw [if_neg hmath] at h
    refine ⟨h.1, fun short after heq => ?_⟩
    by_contra hshort
    -- A delimiter that closes before the body ends is part of the body and its own delimiter.
    have hstart : short ++ mark <+: body ++ mark := by
      refine List.prefix_of_prefix_length_le ⟨after, heq⟩ (List.prefix_append _ rest') ?_
      simp only [List.length_append]
      omega
    obtain ⟨tail, htail⟩ := hstart
    exact hshort (h.2 short (tail ++ rest) (by rw [← htail, ← List.append_assoc]))

/-- A span at the start of a text stands at the start of any longer text. -/
theorem Fits.append (h : Fits cs kind mark body rest) (more : List Char) :
    Fits (cs ++ more) kind mark body (rest ++ more) :=
  ⟨h.mark_mem, by rw [h.text_eq, List.append_assoc], h.isBody.congr_rest _⟩

/-- Where no span starts in a text, none starts in a beginning of it. -/
theorem Bare.of_append {more : List Char} (h : Bare (cs ++ more)) : Bare cs :=
  fun _ _ _ _ hfits => h _ _ _ _ (hfits.append more)

/-- The span that is taken in a text is taken by itself. -/
theorem Leads.alone (h : Leads cs kind mark body rest) :
    Leads (mark ++ body ++ mark) kind mark body [] := by
  refine ⟨⟨h.fits.mark_mem, (List.append_nil _).symm, h.fits.isBody.congr_rest []⟩, ?_⟩
  intro k m b r hfits
  refine h.first (m := m) (b := b) (r := r ++ rest) ?_
  rw [h.fits.text_eq]
  exact hfits.append rest

/-! ## Whole segments -/

/-- What one segment may be: a span, which is plain text if it is blank and no formula, or text
    in which no span starts. -/
inductive IsWhole : Segment → Prop
  | span {kind : Kind} {mark body : List Char} :
      Leads (mark ++ body ++ mark) kind mark body [] → IsWhole (spanSegment kind mark body)
  | plain {cs : List Char} :
      cs ≠ [] → (∀ i, i < cs.length → Bare (cs.drop i)) → IsWhole ⟨.plain, cs⟩

theorem isWhole_of_mem_gap (h : ∀ i, i < cs.length → Bare (cs.drop i)) {s : Segment}
    (hs : s ∈ gap cs) : IsWhole s := by
  unfold gap at hs
  split at hs
  · cases hs
  · next hne =>
    rw [List.mem_singleton.1 hs]
    exact .plain hne h

/-- The segments of a cut are whole. -/
theorem IsCut.isWhole {cut : List Segment} (h : IsCut cs cut) {s : Segment} (hs : s ∈ cut) :
    IsWhole s := by
  induction h with
  | last hbare => exact isWhole_of_mem_gap hbare hs
  | @span before cs _ _ _ _ _ hbare hleads _ ih =>
    rcases List.mem_append.1 hs with hs | hs
    · refine isWhole_of_mem_gap (fun i hi => ?_) hs
      -- The text before the span goes on with it.
      have hi' := hbare i hi
      rw [List.drop_append_of_le_length (Nat.le_of_lt hi)] at hi'
      exact hi'.of_append
    · rcases List.mem_cons.1 hs with rfl | hs
      · exact .span hleads.alone
      · exact ih hs

theorem isCut_nil : IsCut [] [] := .last fun i hi => (Nat.not_lt_zero i hi).elim

/-- A whole segment is cut into itself. -/
theorem IsWhole.isCut {s : Segment} (h : IsWhole s) : IsCut s.raw [s] := by
  cases h with
  | @span kind mark body hleads =>
    refine (IsCut.span ?_ hleads isCut_nil : IsCut ([] ++ (mark ++ body ++ mark)) (gap [] ++ _))
    exact fun i hi => (Nat.not_lt_zero i hi).elim
  | @plain cs hne hbare =>
    have hcut := IsCut.last hbare
    rwa [gap, if_neg hne] at hcut

/-- A segment of a text is a span, a blank span that counts as plain text, or text in which no
    span starts, and taken by itself it is cut into that same segment. -/
theorem splitRuns_raw (text : List Char) (s : Segment) (h : s ∈ splitRuns text) :
    IsWhole s ∧ splitRuns s.raw = [s] := by
  obtain ⟨hs, hshows⟩ := List.mem_filter.1 h
  have hwhole : IsWhole s := (isCut_segments text).isWhole hs
  refine ⟨hwhole, ?_⟩
  rw [splitRuns, ← isCut_iff.1 hwhole.isCut]
  exact List.filter_eq_self.2 fun s' hs' => List.mem_singleton.1 hs' ▸ hshows

/-- A blank span between others, and a gap that is left by spans on both sides. -/
theorem splitRuns_raw_blank :
    (⟨.plain, "** **".toList⟩ ∈ splitRuns "$a$** ***b* `c $".toList
        ∧ splitRuns "** **".toList = [⟨.plain, "** **".toList⟩])
      ∧ ⟨.plain, " `c $".toList⟩ ∈ splitRuns "$a$** ***b* `c $".toList
        ∧ splitRuns " `c $".toList = [⟨.plain, " `c $".toList⟩] := by
  have hblank : ⟨.plain, "** **".toList⟩ ∈ splitRuns "$a$** ***b* `c $".toList := by
    decide +kernel
  have hgap : ⟨.plain, " `c $".toList⟩ ∈ splitRuns "$a$** ***b* `c $".toList := by
    decide +kernel
  exact ⟨⟨hblank, (splitRuns_raw _ _ hblank).2⟩, hgap, (splitRuns_raw _ _ hgap).2⟩

end Manuscript.Inline
