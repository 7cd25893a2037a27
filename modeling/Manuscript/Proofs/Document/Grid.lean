import Manuscript.Document.Compose
import Manuscript.Proofs.Work

/-!
# The grid of a table

A table has as many columns as there are cells in its head, whatever the lengths of its
other rows and of its list of alignments. The texts that have a place in the grid are
formatted row by row, each once (`linesOf`); the others are left out, and a place without a
text has no runs.

* `getElem?_fitTo`: what is in the places of a list that is cut or filled;
* `IsGrid`: the rows of a table, place by place;
* `composeToken_table_mirrors`: composing a table is formatting the texts in its grid.
-/

namespace Manuscript.Document

open Manuscript.Formula Manuscript.Inline Manuscript.Style Manuscript.Work

/-! ## Places -/

/-- Within the size, each place has its member, or the filler if there is none. -/
theorem getElem?_fitTo {α : Type} (size : Nat) (filler : α) (xs : List α) (i : Nat) :
    (fitTo size filler xs)[i]? = if i < size then some (xs[i]?.getD filler) else none := by
  unfold fitTo
  rw [List.getElem?_take, List.getElem?_append, List.getElem?_replicate]
  grind

/-- A list of the right size has nothing cut off and nothing filled in. -/
theorem fitTo_length {α : Type} (filler : α) (xs : List α) : fitTo xs.length filler xs = xs := by
  rw [fitTo, List.take_left']
  rfl

/-- The cells for the lines of a row, which has a place for each alignment. -/
def gridCells (width : Int) (looks : CellLooks) (align : List (Option String))
    (lines : List (List Run)) : List Cell :=
  List.zipWith
    (fun runs align => ⟨runs, width, looks.margins, looks.spacing, align⟩) lines align

/-- A row of a grid. -/
def gridRow (columns : Nat) (align : List (Option String)) (header : Bool)
    (lines : List (List Run)) : Row :=
  let looks := if header then headerLooks else dataLooks
  { cells := gridCells (100 / columns : Nat) looks (fitTo columns none align)
      (fitTo columns [] lines)
    header
    minHeight := some (if header then 600 else 400) }

/-- The rows of a grid, of which the first is the head. -/
def gridRows (columns : Nat) (align : List (Option String)) : List (List (List Run)) → List Row
  | [] => []
  | head :: rest => gridRow columns align true head :: rest.map (gridRow columns align false)

/-- The rows of a table, place by place: a place shows the line that is there, or nothing, and
    keeps to the side that its column is given, if any. -/
structure IsGrid (columns : Nat) (align : List (Option String)) (lines : List (List (List Run)))
    (rows : List Row) : Prop where
  length : rows.length = lines.length
  row : ∀ {k : Nat} {r : Row}, rows[k]? = some r →
    r.cells.length = columns ∧ (r.header = true ↔ k = 0)
  cell : ∀ {k j : Nat} {r : Row} {c : Cell}, rows[k]? = some r → r.cells[j]? = some c →
    c.runs = (lines[k]?.bind fun texts => texts[j]?).getD []
      ∧ c.align = align[j]?.join ∧ c.width = (100 / columns : Nat)

theorem length_gridRow (columns : Nat) (align : List (Option String)) (header : Bool)
    (lines : List (List Run)) : (gridRow columns align header lines).cells.length = columns := by
  rw [gridRow, gridCells, List.length_zipWith, length_fitTo, length_fitTo, Nat.min_self]

theorem cell_gridRow {columns : Nat} {align : List (Option String)} {header : Bool}
    {lines : List (List Run)} {j : Nat} {c : Cell}
    (h : (gridRow columns align header lines).cells[j]? = some c) :
    c.runs = lines[j]?.getD [] ∧ c.align = align[j]?.join ∧ c.width = (100 / columns : Nat) := by
  have hj : j < columns := by
    rw [← length_gridRow columns align header lines]
    exact (List.getElem?_eq_some_iff.1 h).1
  rw [gridRow, gridCells, List.getElem?_zipWith, getElem?_fitTo, getElem?_fitTo, if_pos hj,
    if_pos hj] at h
  obtain rfl := Option.some.inj h
  refine ⟨rfl, ?_, rfl⟩
  cases align[j]? <;> rfl

theorem isGrid_gridRows (columns : Nat) (align : List (Option String))
    (lines : List (List (List Run))) :
    IsGrid columns align lines (gridRows columns align lines) := by
  have hrow : ∀ {k : Nat} {r : Row}, (gridRows columns align lines)[k]? = some r →
      ∃ line, lines[k]? = some line ∧ r = gridRow columns align (k == 0) line := by
    intro k r h
    cases lines with
    | nil => cases h
    | cons head rest =>
      cases k with
      | zero => exact ⟨head, rfl, (Option.some.inj h).symm⟩
      | succ k =>
        rw [gridRows, List.getElem?_cons_succ, List.getElem?_map] at h
        obtain ⟨line, hline, rfl⟩ := Option.map_eq_some_iff.1 h
        exact ⟨line, hline, rfl⟩
  refine ⟨?_, fun h => ?_, fun {k j r c} h hc => ?_⟩
  · cases lines with
    | nil => rfl
    | cons head rest => simp [gridRows]
  · obtain ⟨line, -, rfl⟩ := hrow h
    exact ⟨length_gridRow _ _ _ _, beq_iff_eq⟩
  · obtain ⟨line, hline, rfl⟩ := hrow h
    rw [hline]
    exact cell_gridRow hc

/-! ## Composing -/

section Composing

variable {σ : Type} (b : Bridge σ) (config : Config)

/-- The runs of the texts in a grid, row by row. -/
def linesOf (columns : Nat) (rows : List (List String)) :
    Work (Composition σ) Fault (List (List (List Run))) :=
  Work.forEach (fun row => Work.forEach (runsOf b config) (row.take columns)) rows

/-- Some runs that a text is formatted to. -/
def IsFormat (text : String) (runs : List Run) : Prop :=
  ∃ s, (format b config text s).result = .ok runs

theorem runsOf_formats (text : String) :
    Gives (runsOf b config text) (IsFormat b config text) := by
  intro t _
  rcases h : format b config text t.bridge with ⟨e | runs, said, s⟩
  · exact .of_error (by simp only [runsOf, onBridge, h]; rfl) ⟨trivial, trivial⟩
  · exact .of_ok (onBridge_ok h) ⟨trivial, t.bridge, congrArg Outcome.result h⟩

theorem linesOf_gives (columns : Nat) (rows : List (List String)) :
    Gives (linesOf b config columns rows)
      (List.Forall₂ (fun row line => List.Forall₂ (IsFormat b config) (row.take columns) line)
        rows) :=
  .forEach (fun _ => .forEach (runsOf_formats b config) _) rows

/-- A place that is filled in has no runs. -/
theorem forEach_runsOf_replicate (n : Nat) :
    Work.forEach (runsOf b config) (List.replicate n "") = pure (List.replicate n []) := by
  induction n with
  | zero => rfl
  | succ n ih =>
    rw [List.replicate_succ, Work.forEach, ih]
    rfl

theorem forEach_runsOf_mirrors (columns : Nat) (row : List String) :
    Mirrors (Work.forEach (runsOf b config) (fitTo columns "" row))
      (Work.forEach (runsOf b config) (row.take columns)) (fitTo columns []) := by
  rw [fitTo_eq, forEach_append, forEach_runsOf_replicate]
  have hfilled := (Mirrors.refl (Work.forEach (runsOf b config) (row.take columns))).map
    (· ++ List.replicate (columns - row.length) [])
  refine hfilled.congr (.forEach (runsOf_formats b config) _) fun line hline => ?_
  have hlength := hline.length_eq
  rw [List.length_take] at hlength
  rw [fitTo_eq, List.take_of_length_le (by omega), Function.comp_apply, id]
  congr 2
  omega

theorem cellsOf_mirrors (width : Int) (looks : CellLooks) {texts : List String}
    {align : List (Option String)} (h : texts.length = align.length) :
    Mirrors (cellsOf b config width looks (texts.zip align)) (Work.forEach (runsOf b config) texts)
      (gridCells width looks align) := by
  induction texts generalizing align with
  | nil => exact .pure (by simp [gridCells])
  | cons text rest ih =>
    cases align with
    | nil => cases h
    | cons side align =>
      have hcell := (Mirrors.refl (runsOf b config text)).map
        (Cell.mk · width looks.margins looks.spacing side)
      exact hcell.both (ih (Nat.succ.inj h)) fun _ _ => rfl

/-- The cells of a row are made of the texts that have a place in the grid. -/
theorem rowCells_mirrors (columns : Nat) (width : Int) (looks : CellLooks)
    (align : List (Option String)) (row : List String) :
    Mirrors (cellsOf b config width looks ((fitTo columns "" row).zip (fitTo columns none align)))
      (Work.forEach (runsOf b config) (row.take columns))
      (gridCells width looks (fitTo columns none align) ∘ fitTo columns []) :=
  (cellsOf_mirrors b config width looks (by simp)).trans
    (forEach_runsOf_mirrors b config columns row)

theorem dataRows_mirrors (columns : Nat) (align : List (Option String)) (number : Nat)
    (rows : List (List String)) :
    Mirrors
      (dataRows b config columns (100 / columns : Nat) (fitTo columns none align) number rows)
      (linesOf b config columns rows) (List.map (gridRow columns align false)) := by
  induction rows generalizing number with
  | nil => exact .pure rfl
  | cons row rest ih =>
    have hrow := rowCells_mirrors b config columns (100 / columns : Nat) dataLooks align row
    unfold dataRows
    split
    · exact .tell (hrow.both (ih (number + 1)) fun _ _ => rfl) _
    · exact hrow.both (ih (number + 1)) fun _ _ => rfl

/-- A token that is composed alone has its own blocks, and no spacer before them. -/
theorem compose_singleton_mirrors (token : Token) :
    Mirrors (compose b config [token]) (composeToken b config token) id := by
  have hown := (Mirrors.refl (composeToken b config token)).map (· ++ [])
  rw [show (· ++ []) ∘ id = (id : List Block → List Block) from funext List.append_nil] at hown
  exact .tell hown _

/-- Composing a table is formatting the texts in its grid, row by row, and nothing else: it ends
    with the fault of that, or with one block, the cells of which show what came of the texts. -/
theorem composeToken_table_mirrors {header : List String} (h : header ≠ [])
    (rows : List (List String)) (align : List (Option String)) :
    Mirrors (composeToken b config (.table header rows align))
      (linesOf b config header.length (header :: rows))
      fun lines => [.table (gridRows header.length align lines) header.length
        (100 / header.length : Nat) tableBorders tableMargins] := by
  have hlength : header.length ≠ 0 := by simpa using h
  have hhead := rowCells_mirrors b config header.length (100 / header.length : Nat) headerLooks
    align header
  rw [fitTo_length] at hhead
  have htable : Mirrors (tableBlock b config header rows align)
      (linesOf b config header.length (header :: rows))
      fun lines => .table (gridRows header.length align lines) header.length
        (100 / header.length : Nat) tableBorders tableMargins := by
    simp only [tableBlock, hlength, if_false]
    exact hhead.both (dataRows_mirrors b config header.length align 1 rows) fun _ _ => rfl
  exact htable.map fun block => [block]

end Composing

end Manuscript.Document
