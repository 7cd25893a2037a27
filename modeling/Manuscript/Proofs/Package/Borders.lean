import Manuscript.Package.Tables
import Manuscript.Proofs.Success

/-!
# Borders in order

The lines around and between the cells of a table come in the order of their sides, top,
left, bottom, right and then those within; lines along one side keep the order that they are
given in (`bySide`).

* `mergeSort_eq_flatMap`: sorting by a key puts together the members of one key after the
  other, each time in their order;
* `exists_of_bordersTree`: the element of some borders holds their edges, side by side.
-/

namespace Manuscript.Package

open Manuscript.Document Manuscript.Success Manuscript.Xml

/-! ## Sorting -/

section

variable {α : Type} (key : α → Nat)

theorem key_le_trans (a b c : α) (hab : decide (key a ≤ key b) = true)
    (hbc : decide (key b ≤ key c) = true) : decide (key a ≤ key c) = true := by
  simp only [decide_eq_true_eq] at hab hbc ⊢
  omega

theorem key_le_total (a b : α) : (decide (key a ≤ key b) || decide (key b ≤ key a)) = true := by
  simp only [Bool.or_eq_true, decide_eq_true_eq]
  omega

/-- Members of one key stay in their order. -/
theorem filter_mergeSort (l : List α) (k : Nat) :
    (l.mergeSort fun a b => key a ≤ key b).filter (fun a => key a = k)
      = l.filter fun a => key a = k := by
  -- They are sorted among themselves, so that they are found in the sorted list as they stand.
  have hkey : ∀ a ∈ l.filter (fun a => key a = k), key a = k := fun a ha => by
    simpa using (List.mem_filter.1 ha).2
  have hsorted : (l.filter fun a => key a = k).Pairwise fun a b => decide (key a ≤ key b) = true :=
    List.pairwise_iff_forall_sublist.2 fun {a b} hab => by
      have ha := hkey a (hab.subset List.mem_cons_self)
      have hb := hkey b (hab.subset (List.mem_cons_of_mem _ List.mem_cons_self))
      simp [ha, hb]
  have hsub := (List.sublist_mergeSort (key_le_trans key) (key_le_total key) hsorted
    List.filter_sublist).filter fun a => decide (key a = k)
  rw [List.filter_filter] at hsub
  simp only [Bool.and_self] at hsub
  refine (hsub.eq_of_length ?_).symm
  exact (((List.mergeSort_perm l _).filter _).length_eq).symm

variable {key}

/-- In a sorted list, the members of the greatest key come last. -/
theorem filter_append_filter {l : List α} (hl : l.Pairwise fun a b => key a ≤ key b) {n : Nat}
    (hn : ∀ a ∈ l, key a < n + 1) :
    (l.filter fun a => key a < n) ++ (l.filter fun a => key a = n) = l := by
  induction l with
  | nil => rfl
  | cons a rest ih =>
    obtain ⟨ha, hrest⟩ := List.pairwise_cons.1 hl
    obtain ⟨han, hrestn⟩ := List.forall_mem_cons.1 hn
    by_cases h : key a < n
    · rw [List.filter_cons_of_pos (by simpa using h),
        List.filter_cons_of_neg (by simpa using Nat.ne_of_lt h), List.cons_append, ih hrest hrestn]
    · -- From here on, there is no smaller key.
      have heq : key a = n := by omega
      have hnone : (a :: rest).filter (fun a => key a < n) = [] :=
        List.filter_eq_nil_iff.2 <| List.forall_mem_cons.2 ⟨by simpa using h, fun b hb => by
          have := ha b hb
          simp only [decide_eq_true_eq]
          omega⟩
      have hall : (a :: rest).filter (fun a => key a = n) = a :: rest :=
        List.filter_eq_self.2 <| List.forall_mem_cons.2 ⟨by simpa using heq, fun b hb => by
          have := ha b hb
          have := hrestn b hb
          simp only [decide_eq_true_eq]
          omega⟩
      rw [hnone, hall, List.nil_append]

/-- A sorted list is the members of each key after those of smaller ones. -/
theorem flatMap_filter_of_pairwise {l : List α} (hl : l.Pairwise fun a b => key a ≤ key b) {n : Nat}
    (hn : ∀ a ∈ l, key a < n) :
    (List.range n).flatMap (fun k => l.filter fun a => key a = k) = l := by
  induction n generalizing l with
  | zero =>
    rw [List.eq_nil_iff_forall_not_mem.2 fun a ha => absurd (hn a ha) (Nat.not_lt_zero _)]
    rfl
  | succ n ih =>
    have hlow := ih (hl.filter fun a => decide (key a < n)) fun a ha => by
      simpa using (List.mem_filter.1 ha).2
    have hparts : (List.range n).flatMap (fun k => l.filter fun a => key a = k)
        = (List.range n).flatMap fun k =>
            (l.filter fun a => key a < n).filter fun a => key a = k := by
      refine List.flatMap_congr fun k hk => ?_
      rw [List.filter_filter]
      refine List.filter_congr fun a _ => ?_
      have := List.mem_range.1 hk
      by_cases hak : key a = k <;> simp [hak]
      omega
    rw [List.range_succ, List.flatMap_append, hparts, hlow, List.flatMap_singleton,
      filter_append_filter hl hn]

/-- To sort by a key is to put together the members of one key after the other. -/
theorem mergeSort_eq_flatMap {l : List α} {n : Nat} (hn : ∀ a ∈ l, key a < n) :
    (l.mergeSort fun a b => key a ≤ key b)
      = (List.range n).flatMap fun k => l.filter fun a => key a = k := by
  have hsorted := List.pairwise_mergeSort (key_le_trans key) (key_le_total key) l
  simp only [decide_eq_true_eq] at hsorted
  rw [← flatMap_filter_of_pairwise hsorted fun a ha => hn a (List.mem_mergeSort.1 ha)]
  exact List.flatMap_congr fun k _ => filter_mergeSort key l k

end

/-! ## Sides -/

/-- Borders side by side, and those of one side in their order. -/
def bySide (borders : List Border) : List Border :=
  sides.flatMap fun side => borders.filter fun b => b.side = side

theorem mem_sides_of_mem_bySide {borders : List Border} {b : Border} (h : b ∈ bySide borders) :
    b.side ∈ sides := by
  obtain ⟨side, hside, hb⟩ := List.mem_flatMap.1 h
  have := of_decide_eq_true (List.mem_filter.1 hb).2
  rwa [this]

theorem sideRank?_eq_some_iff {side : String} {k : Nat} (hk : k < sides.length) :
    sideRank? side = some k ↔ side = sides[k] := by
  rw [sideRank?, List.findIdx?_eq_some_iff_getElem]
  have hnodup : sides.Nodup := by decide
  constructor
  · rintro ⟨_, hside, -⟩
    exact (eq_of_beq hside).symm
  · rintro rfl
    refine ⟨hk, beq_self_eq_true _, fun j hj hsame => ?_⟩
    exact List.pairwise_iff_getElem.1 hnodup j k _ hk hj (eq_of_beq hsame)

theorem sideRank?_lt {side : String} {k : Nat} (h : sideRank? side = some k) : k < sides.length :=
  (List.findIdx?_eq_some_iff_getElem.1 h).1

/-- Among borders with their ranks, those of a rank are those of the borders that have it. -/
theorem filter_ranked {borders : List Border} {ranked : List (Nat × Border)}
    (h : List.Forall₂ (fun b r => r.2 = b ∧ sideRank? b.side = some r.1) borders ranked) (k : Nat) :
    (ranked.filter fun r => r.1 = k).map (·.2)
      = borders.filter fun b => sideRank? b.side = some k := by
  induction h with
  | nil => rfl
  | cons hb _ ih =>
    obtain ⟨rfl, hrank⟩ := hb
    simp only [List.filter_cons, hrank, Option.some.injEq, ← ih]
    split <;> rfl

/-- Sorted borders are the same borders, side by side. -/
theorem sortedBorders_eq {borders sorted : List Border} (h : sortedBorders borders = .ok sorted) :
    sorted = bySide borders ∧ sorted.Perm borders := by
  simp only [sortedBorders, bind_eq_ok_iff, pure_eq_ok_iff, mapM_eq_ok_iff] at h
  obtain ⟨ranked, hranked, rfl⟩ := h
  have hpairs : List.Forall₂ (fun b r => r.2 = b ∧ sideRank? b.side = some r.1) borders ranked :=
    hranked.imp fun b r h => by
      split at h
      · next rank hrank =>
        obtain rfl := Except.ok.inj h
        exact ⟨rfl, hrank⟩
      · cases h
  have hborders : ranked.map (·.2) = borders := by
    clear hranked
    induction hpairs with
    | nil => rfl
    | cons hb _ ih => rw [List.map_cons, hb.1, ih]
  have hranks : ∀ r ∈ ranked, r.1 < sides.length := by
    clear hranked hborders
    induction hpairs with
    | nil => exact fun r hr => nomatch hr
    | cons hb _ ih => exact List.forall_mem_cons.2 ⟨sideRank?_lt hb.2, ih⟩
  constructor
  · have hsides : (List.range sides.length).map (fun k => sides.getD k "") = sides := by decide
    calc (ranked.mergeSort fun a b => a.1 ≤ b.1).map (·.2)
        = (List.range sides.length).flatMap fun k =>
            borders.filter fun b => sideRank? b.side = some k := by
          rw [mergeSort_eq_flatMap hranks, List.map_flatMap]
          exact List.flatMap_congr fun k _ => filter_ranked hpairs k
      _ = (List.range sides.length).flatMap fun k =>
            borders.filter fun b => b.side = sides.getD k "" := by
          refine List.flatMap_congr fun k hk => List.filter_congr fun b _ => decide_eq_decide.2 ?_
          have hk := List.mem_range.1 hk
          rw [sideRank?_eq_some_iff hk, List.getD_eq_getElem?_getD, List.getElem?_eq_getElem hk,
            Option.getD_some]
      _ = bySide borders := by rw [bySide, ← hsides, List.flatMap_map, hsides]
  · exact hborders ▸ (List.mergeSort_perm ranked _).map _

/-- Borders on sides of a cell can be put in the order of their sides. -/
theorem exists_sortedBorders {borders : List Border}
    (h : ∀ b ∈ borders, (sideRank? b.side).isSome = true) :
    ∃ sorted, sortedBorders borders = .ok sorted ∧ ∀ b ∈ sorted, b ∈ borders := by
  simp only [sortedBorders, bind_eq_ok_iff, pure_eq_ok_iff]
  -- Each border is ranked by the place of its side; sorting keeps the borders.
  refine ⟨_, ⟨borders.map fun b => ((sideRank? b.side).getD 0, b), mapM_eq_ok_iff.2 ?_, rfl⟩, ?_⟩
  · refine List.forall₂_map_right_iff.2 (List.forall₂_same.2 fun b hb => ?_)
    obtain ⟨place, hplace⟩ := Option.isSome_iff_exists.1 (h b hb)
    rw [hplace]
    rfl
  · intro b hb
    obtain ⟨ranked, hranked, rfl⟩ := List.mem_map.1 hb
    obtain ⟨b', hb', rfl⟩ := List.mem_map.1 (List.mem_mergeSort.1 hranked)
    exact hb'

/-! ## Edges -/

/-- The element of a border. -/
def edge (b : Border) : Tree :=
  .leaf ("w:" ++ b.side)
    [("w:color", b.color), ("w:space", toString b.space), ("w:sz", toString b.size),
      ("w:val", b.style)]

theorem eq_of_legal? {s s' : String} (h : legal? s = .ok s') : s' = s := by
  unfold legal? at h
  split at h
  · exact (Except.ok.inj h).symm
  · cases h

theorem borderTree_eq {b : Border} {t : Tree} (h : borderTree b = .ok t) : t = edge b := by
  unfold borderTree at h
  split at h
  · cases h
  · simp only [bind_eq_ok_iff, pure_eq_ok_iff] at h
    obtain ⟨style, hstyle, color, hcolor, rfl⟩ := h
    rw [eq_of_legal? hstyle, eq_of_legal? hcolor, edge]

/-- The element of some borders holds their edges, side by side. -/
theorem bordersTree_eq {name : String} {borders : List Border} {t : Tree}
    (h : bordersTree name borders = .ok t) :
    t = .element name [] ((bySide borders).map edge) ∧ (bySide borders).Perm borders := by
  simp only [bordersTree, bind_eq_ok_iff, pure_eq_ok_iff] at h
  obtain ⟨sorted, hsorted, trees, htrees, rfl⟩ := h
  obtain ⟨rfl, hperm⟩ := sortedBorders_eq hsorted
  rw [eq_map_of_mapM htrees fun _ _ => borderTree_eq]
  exact ⟨rfl, hperm⟩

end Manuscript.Package
