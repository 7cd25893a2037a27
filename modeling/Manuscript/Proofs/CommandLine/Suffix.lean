import Manuscript.CommandLine.Path
import Mathlib.Data.List.TakeWhile

/-!
# Suffixes of names

A name is cut at its last point, if characters stand on both sides of it (`HasSuffix`). As no
point follows the last one, there is one cut at most, and it is where the stem of the name ends.

A suffix is replaced by taking as many characters off the end of a name as its suffix has
(`replaceSuffix`). A document in a directory is called by the stem of its source instead, with
the new suffix after it (`documentName`). As stem and suffix make up the name, both come to the
same.

* `stem_append_suffix`: a name is its stem and its suffix;
* `replaceSuffix_eq`: another suffix goes after the stem;
* `isTitle_iff`: what a document is called, by the cut of the name of its source;
* `documentName_eq_self_iff`: which names stay as they are.
-/

namespace Manuscript.CommandLine

variable {front ending name : List Char}

/-! ## The last point -/

/-- From its end, a name is read up to its last point. -/
theorem span_reverse (front : List Char) (h : '.' ∉ ending) :
    (front ++ '.' :: ending).reverse.takeWhile (· != '.') = ending.reverse
      ∧ (front ++ '.' :: ending).reverse.dropWhile (· != '.') = '.' :: front.reverse := by
  have hending : ∀ c ∈ ending.reverse, (c != '.') = true := fun c hc => by
    simpa using ne_of_mem_of_not_mem (List.mem_reverse.1 hc) h
  rw [List.reverse_append, List.reverse_cons, List.append_assoc,
    List.takeWhile_append_of_pos hending, List.dropWhile_append_of_pos hending]
  simp

/-- A name with a point has a last one. -/
theorem exists_last_point (h : '.' ∈ name) :
    ∃ front ending, name = front ++ '.' :: ending ∧ '.' ∉ ending := by
  obtain ⟨after, before, heq, hnot⟩ := List.eq_append_cons_of_mem (List.mem_reverse.2 h)
  refine ⟨before.reverse, after.reverse, ?_, fun hmem => hnot (List.mem_reverse.1 hmem)⟩
  rw [← List.reverse_reverse name, heq]
  simp

/-- At its last point a name is cut, unless nothing stands on one side of it. -/
theorem chars_append (front : List Char) (h : '.' ∉ ending) :
    stemChars (front ++ '.' :: ending)
        = (if ending = [] ∨ front = [] then front ++ '.' :: ending else front)
      ∧ suffixChars (front ++ '.' :: ending)
        = if ending = [] ∨ front = [] then [] else '.' :: ending := by
  obtain ⟨htake, hdrop⟩ := span_reverse front h
  simp only [stemChars, suffixChars, htake, hdrop]
  simp

/-- A name can be cut at its last point, or is all stem. -/
theorem chars_cases (name : List Char) :
    (∃ front ending, name = front ++ '.' :: ending ∧ front ≠ [] ∧ ending ≠ [] ∧ '.' ∉ ending)
      ∨ stemChars name = name ∧ suffixChars name = [] := by
  by_cases hpoint : '.' ∈ name
  · obtain ⟨front, ending, rfl, hnot⟩ := exists_last_point hpoint
    by_cases hsides : ending = [] ∨ front = []
    · obtain ⟨hstem, hsuffix⟩ := chars_append front hnot
      rw [if_pos hsides] at hstem hsuffix
      exact .inr ⟨hstem, hsuffix⟩
    · rw [not_or] at hsides
      exact .inl ⟨front, ending, rfl, hsides.2, hsides.1, hnot⟩
  · have hdrop : name.reverse.dropWhile (· != '.') = [] := by
      rw [List.dropWhile_eq_nil_iff]
      exact fun c hc => by simpa using ne_of_mem_of_not_mem (List.mem_reverse.1 hc) hpoint
    exact .inr (by simp [stemChars, suffixChars, hdrop])

/-! ## Stem and suffix -/

/-- A name has a suffix: its last point, with characters on both sides of it. -/
structure HasSuffix (name front ending : String) : Prop where
  eq_append : name = front ++ "." ++ ending
  front_ne : front ≠ ""
  ending_ne : ending ≠ ""
  notMem : '.' ∉ ending.toList

section

variable {name front ending new title : String}

theorem HasSuffix.toList_eq (h : HasSuffix name front ending) :
    name.toList = front.toList ++ '.' :: ending.toList := by
  rw [h.eq_append, String.toList_append, String.toList_append, List.append_assoc]
  rfl

/-- A suffix is what is cut off a name, and the stem is what is left. -/
theorem HasSuffix.cut_eq (h : HasSuffix name front ending) :
    stem name = front ∧ suffix name = "." ++ ending := by
  obtain ⟨hstem, hsuffix⟩ := chars_append front.toList h.notMem
  have hsides : ¬ (ending.toList = [] ∨ front.toList = []) := by
    simp [String.toList_eq_nil_iff, h.ending_ne, h.front_ne]
  rw [if_neg hsides, ← h.toList_eq] at hstem hsuffix
  refine ⟨by rw [stem, hstem, String.ofList_toList], ?_⟩
  apply String.toList_inj.1
  rw [suffix, hsuffix, String.toList_ofList, String.toList_append]
  rfl

theorem HasSuffix.suffix_ne (h : HasSuffix name front ending) : suffix name ≠ "" := by
  rw [h.cut_eq.2]
  exact fun heq => absurd (congrArg String.toList heq) (by simp)

/-- A name has a suffix, or is all stem. -/
theorem hasSuffix_or (name : String) :
    (∃ front ending, HasSuffix name front ending)
      ∨ (∀ front ending, ¬ HasSuffix name front ending) ∧ stem name = name ∧ suffix name = "" := by
  rcases chars_cases name.toList with ⟨front, ending, heq, hfront, hending, hnot⟩ | ⟨hstem, hsuffix⟩
  · refine .inl ⟨String.ofList front, String.ofList ending, ?_, ?_, ?_, ?_⟩
    · apply String.toList_inj.1
      simp [heq]
    · simpa using hfront
    · simpa using hending
    · rwa [String.toList_ofList]
  · have hnone : suffix name = "" := by rw [suffix, hsuffix, String.ofList_nil]
    exact .inr ⟨fun _ _ h => h.suffix_ne hnone, by rw [stem, hstem, String.ofList_toList], hnone⟩

/-- A name is its stem and its suffix. -/
theorem stem_append_suffix (name : String) : stem name ++ suffix name = name := by
  rcases hasSuffix_or name with ⟨front, ending, h⟩ | ⟨-, hstem, hsuffix⟩
  · rw [h.cut_eq.1, h.cut_eq.2, ← String.append_assoc, ← h.eq_append]
  · rw [hstem, hsuffix, String.append_empty]

/-- Another suffix goes after the stem. -/
theorem replaceSuffix_eq (name new : String) : replaceSuffix name new = stem name ++ new := by
  have hname := stem_append_suffix name
  rw [replaceSuffix]
  split
  · next hempty =>
    rw [String.isEmpty_iff.1 hempty, String.append_empty] at hname
    rw [hname]
  · have hlength : name.length - (suffix name).length = (stem name).toList.length := by
      rw [← congrArg String.length hname, String.length_append, Nat.add_sub_cancel,
        String.length_toList]
    have htake : name.toList.take (stem name).toList.length = (stem name).toList := by
      rw [← congrArg String.toList hname, String.toList_append, List.take_left]
    rw [hlength, htake, String.ofList_toList]

/-! ## Names of documents -/

/-- What the document of a source is called: by the name of the source, with the suffix of
    documents in the place of its own, or after it if it has none. -/
inductive IsTitle : String → String → Prop
  | replaced {name front ending : String} :
      HasSuffix name front ending → IsTitle name (front ++ ".docx")
  | added {name : String} :
      (∀ front ending, ¬ HasSuffix name front ending) → IsTitle name (name ++ ".docx")

/-- There is one name for the document of a source. -/
theorem isTitle_iff : IsTitle name title ↔ title = documentName name := by
  constructor
  · rintro (h | h)
    · rw [documentName, h.cut_eq.1]
    · rcases hasSuffix_or name with ⟨front, ending, hsuffix⟩ | ⟨-, hstem, -⟩
      · exact absurd hsuffix (h front ending)
      · rw [documentName, hstem]
  · rintro rfl
    rcases hasSuffix_or name with ⟨front, ending, h⟩ | ⟨hnone, hstem, -⟩
    · rw [documentName, h.cut_eq.1]
      exact .replaced h
    · rw [documentName, hstem]
      exact .added hnone

example : ["a.tar.gz", ".hidden", "a.", "..b", "a"].map documentName
    = ["a.tar.docx", ".hidden.docx", "a..docx", "..docx", "a.docx"] := by decide +kernel

/-- The name of a source stays as it is if it has the suffix of documents already. -/
theorem documentName_eq_self_iff :
    documentName name = name ↔ ∃ front, HasSuffix name front "docx" := by
  constructor
  · intro heq
    have hsuffix : suffix name = "." ++ "docx" :=
      (String.append_right_inj _).1 ((stem_append_suffix name).trans heq.symm)
    rcases hasSuffix_or name with ⟨front, ending, h⟩ | ⟨-, -, hnone⟩
    · have hending : ending = "docx" := (String.append_right_inj _).1 (h.cut_eq.2.symm.trans hsuffix)
      exact ⟨front, hending ▸ h⟩
    · exact absurd (hnone.symm.trans hsuffix) (by decide)
  · rintro ⟨front, h⟩
    have hdocx : ".docx" = "." ++ "docx" := by decide
    rw [documentName, h.cut_eq.1, hdocx, ← String.append_assoc, ← h.eq_append]

end

end Manuscript.CommandLine
