import Manuscript.Markdown.Reading

/-!
# Places in a stream

What stands in a stream from a place on (`Stands`), and what a reader answers there when
it has fuel for all the events that are left (`Reads`). A reader that reads one event
more answers one place before (`Reads.step`); this is how every reader is followed
through a stream, from its end to its start.

* `Level.pastClose_eq`: the end of a part is found, whatever well-nested events it
  encloses;
* `tableFrom_ofTable`: a table is read as it was written.
-/

namespace Manuscript.Markdown

open Manuscript.Text

variable {events : Array Event} {i : Nat}

/-! ## Places -/

/-- Some events stand in the stream from a place on. -/
def Stands (events : Array Event) (i : Nat) (es : List Event) : Prop :=
  es <+: events.toList.drop i

namespace Stands

variable {e : Event} {es fs : List Event}

theorem getElem?_eq (h : Stands events i (e :: es)) : events[i]? = some e := by
  obtain ⟨rest, hr⟩ := h
  rw [← Array.getElem?_toList, ← List.head?_drop, ← hr, List.cons_append, List.head?_cons]

theorem lt_size (h : Stands events i (e :: es)) : i < events.size :=
  (Array.getElem?_eq_some_iff.1 h.getElem?_eq).1

theorem left (h : Stands events i (es ++ fs)) : Stands events i es :=
  (List.prefix_append es fs).trans h

theorem right (h : Stands events i (es ++ fs)) : Stands events (i + es.length) fs := by
  rw [Stands, ← List.drop_drop]
  obtain ⟨rest, hr⟩ := h
  exact ⟨rest, by rw [← hr, List.append_assoc, List.drop_left]⟩

theorem tail (h : Stands events i (e :: es)) : Stands events (i + 1) es := by
  rw [← List.singleton_append] at h
  exact h.right

theorem length_le (h : Stands events i es) : es.length ≤ events.size - i := by
  simpa using List.IsPrefix.length_le h

theorem le_size (h : Stands events i es) (hi : i ≤ events.size) : i + es.length ≤ events.size := by
  have := h.length_le
  omega

/-- A whole stream stands at its start. -/
theorem toArray (es : List Event) : Stands es.toArray 0 es := by
  simp [Stands]

theorem contentAt_eq (h : Stands events i (e :: es)) :
    Reading.contentAt events i = some e.content := by
  rw [Reading.contentAt, h.getElem?_eq, Option.map_some]

end Stands

/-- The place after some events is the place after the others of them. -/
theorem place_cons (i : Nat) (e : Event) (es : List Event) :
    i + (e :: es).length = i + 1 + es.length := by
  rw [List.length_cons, Nat.add_assoc, Nat.add_comm 1]

/-- With fuel for the events from a place on, a reader gives an answer. -/
def Reads {α : Type} (events : Array Event) (i : Nat) (read : Nat → α) (answer : α) : Prop :=
  ∀ fuel, events.size < fuel + i → read fuel = answer

/-- An answer follows from what one step of a reader does with the fuel that is left. -/
theorem Reads.step {α : Type} {read : Nat → α} {answer : α} {e : Event} {es : List Event}
    (hs : Stands events i (e :: es))
    (h : ∀ fuel, events.size ≤ fuel + i → read (fuel + 1) = answer) :
    Reads events i read answer := by
  intro fuel hf
  cases fuel with
  | zero => exact absurd hs.lt_size (by omega)
  | succ fuel => exact h fuel (by omega)

namespace Reading

/-! ## Ends of parts -/

/-- Events that open and close as many parts, and close none that was open before. -/
def Level (es : List Event) : Prop :=
  ∀ (events : Array Event) (i fuel : Nat) (depth : Int), Stands events i es → 0 < depth →
    pastClose events (es.length + fuel) i depth = pastClose events fuel (i + es.length) depth

namespace Level

theorem nil : Level [] := fun _ _ fuel _ _ _ => by rw [List.length_nil, Nat.zero_add]; rfl

theorem append {es fs : List Event} (h : Level es) (h' : Level fs) : Level (es ++ fs) := by
  intro events i fuel depth hs hd
  rw [List.length_append, Nat.add_assoc, h events i _ depth hs.left hd,
    h' events _ fuel depth hs.right hd, Nat.add_assoc]

/-- A step on an event that leaves some part open. -/
theorem pastClose_step {e : Event} {es : List Event} {fuel : Nat} {depth : Int}
    (hs : Stands events i (e :: es)) (hd : depth + e.nesting ≠ 0) :
    pastClose events (fuel + 1) i depth = pastClose events fuel (i + 1) (depth + e.nesting) := by
  rw [pastClose, hs.getElem?_eq]
  exact if_neg hd

theorem single {e : Event} (he : e.nesting = 0) : Level [e] := by
  intro events i fuel depth hs hd
  rw [List.length_singleton, Nat.add_comm, pastClose_step hs (by omega), he, Int.add_zero]

theorem enclosed {part : Part} {line depth : Nat} {start : Option Nat} {style : Option String}
    {es : List Event} (h : Level es) :
    Level (.enter part line depth start style :: es ++ [.leave part]) := by
  intro events i fuel d hs hd
  have hin := hs.left.tail
  have hout := hs.right
  simp only [List.length_append, List.length_cons, List.length_nil, Nat.zero_add] at hout ⊢
  have hf : es.length + 1 + 1 + fuel = (es.length + (fuel + 1)) + 1 := by omega
  rw [hf, pastClose_step hs.left (by simp only [Event.nesting]; omega),
    h events _ _ _ hin (by simp only [Event.nesting]; omega)]
  have hi : i + 1 + es.length = i + (es.length + 1) := by omega
  rw [hi, pastClose_step hout (by simp only [Event.nesting]; omega)]
  simp only [Event.nesting]
  congr 1
  omega

/-- From the event that opens a part, the end of the part is found. -/
theorem pastClose_eq {part : Part} {line depth fuel : Nat} {start : Option Nat}
    {style : Option String} {es : List Event} (h : Level es)
    (hs : Stands events i (.enter part line depth start style :: es ++ [.leave part]))
    (hf : events.size ≤ fuel + i) :
    pastClose events fuel i 0
      = i + (Event.enter part line depth start style :: es ++ [Event.leave part]).length := by
  have hlen := hs.length_le
  have hin := hs.left.tail
  have hout := hs.right
  simp only [List.length_append, List.length_cons, List.length_nil, Nat.zero_add] at hlen hout
  obtain ⟨more, rfl⟩ : ∃ more, fuel = es.length + (more + 1) + 1 := ⟨fuel - es.length - 2, by omega⟩
  rw [pastClose_step hs.left (by simp [Event.nesting]),
    h events _ _ _ hin (by simp [Event.nesting])]
  have hi : i + 1 + es.length = i + (es.length + 1) := by omega
  rw [hi, pastClose, hout.getElem?_eq]
  simp [Event.nesting, Nat.add_assoc]

theorem flatMap {α : Type} {f : α → List Event} (h : ∀ a, Level (f a)) :
    ∀ as : List α, Level (as.flatMap f)
  | [] => nil
  | a :: as => (h a).append (flatMap h as)

end Level

/-! ## Tables -/

/-- The side of a cell is read as its style was written. -/
theorem alignOf_alignStyle (align : Option Alignment) :
    alignOf (align.map Event.alignStyle) = align.map Alignment.name := by
  rcases align with _ | a
  · rfl
  · cases a <;> decide

/-- The cells of a head, as they are read. -/
def headOf (header : List (String × Option Alignment)) : List (String × Option String) :=
  header.map fun cell => (trimmed cell.1, cell.2.map Alignment.name)

/-- The events of the cells of a head. -/
def headerEvents (line : Nat) (header : List (String × Option Alignment)) : List Event :=
  header.flatMap fun (text, align) => Event.ofCell .headerCell line text align

theorem headCells_headerEvents {line last : Nat} {cells : List (String × Option String)}
    {header : List (String × Option Alignment)} (hs : Stands events i (headerEvents line header))
    (h : Reads events (i + (headerEvents line header).length)
      (headCells events · (i + (headerEvents line header).length)) (some (cells, last))) :
    Reads events i (headCells events · i) (some (headOf header ++ cells, last)) := by
  induction header generalizing i with
  | nil => simpa [headerEvents, headOf] using h
  | cons cell header ih =>
    obtain ⟨text, align⟩ := cell
    have hcons : headerEvents line ((text, align) :: header)
        = Event.ofCell .headerCell line text align ++ headerEvents line header := rfl
    rw [hcons] at hs h
    rw [List.length_append] at h
    have hlen : (Event.ofCell .headerCell line text align).length = 3 := rfl
    have hrest := ih (i := i + 3) (hlen ▸ hs.right) (by
      simpa only [hlen, ← Nat.add_assoc] using h)
    refine Reads.step hs.left fun fuel hf => ?_
    rw [headCells, hs.left.getElem?_eq]
    simp only [hs.left.tail.contentAt_eq, hrest fuel (by omega), alignOf_alignStyle]
    rfl

theorem rowCells_ofCells {line last : Nat} {cells row : List String}
    {aligns : List (Option Alignment)} (hs : Stands events i (Event.ofCells line aligns row))
    (h : Reads events (i + (Event.ofCells line aligns row).length)
      (rowCells events · (i + (Event.ofCells line aligns row).length)) (some (cells, last))) :
    Reads events i (rowCells events · i) (some (row.map trimmed ++ cells, last)) := by
  induction row generalizing i aligns with
  | nil => simpa [Event.ofCells] using h
  | cons text row ih =>
    rw [Event.ofCells] at hs h
    rw [List.length_append] at h
    have hlen : (Event.ofCell .cell line text aligns.head?.join).length = 3 := rfl
    have hrest := ih (i := i + 3) (hlen ▸ hs.right) (by
      simpa only [hlen, ← Nat.add_assoc] using h)
    refine Reads.step hs.left fun fuel hf => ?_
    rw [rowCells, hs.left.getElem?_eq]
    simp only [hs.left.tail.contentAt_eq, hrest fuel (by omega)]
    rfl

theorem bodyRows_ofRows {line last : Nat} {more rows : List (List String)}
    {aligns : List (Option Alignment)} (hs : Stands events i (Event.ofRows line aligns rows))
    (h : Reads events (i + (Event.ofRows line aligns rows).length)
      (bodyRows events · (i + (Event.ofRows line aligns rows).length)) (some (more, last))) :
    Reads events i (bodyRows events · i)
      (some (rows.map (fun row => row.map trimmed) ++ more, last)) := by
  induction rows generalizing i with
  | nil => simpa [Event.ofRows] using h
  | cons row rows ih =>
    have hcons : Event.ofRows line aligns (row :: rows)
        = Event.opens .row line :: (Event.ofCells line aligns row ++
            (.leave .row :: Event.ofRows line aligns rows)) := rfl
    rw [hcons] at hs h
    have hcells := hs.tail.left
    have hout := hs.tail.right
    have hrest := ih hout.tail (by
      simpa only [List.length_cons, List.length_append, Nat.add_assoc, Nat.add_comm,
        Nat.add_left_comm] using h)
    have hrow : Reads events (i + 1) (rowCells events · (i + 1))
        (some (row.map trimmed ++ [], i + 1 + (Event.ofCells line aligns row).length + 1)) :=
      rowCells_ofCells hcells (Reads.step hout fun fuel _ => by rw [rowCells, hout.getElem?_eq])
    refine Reads.step hs fun fuel hf => ?_
    have hr := hrow fuel (by omega)
    have hb := hrest fuel (by omega)
    rw [bodyRows, hs.getElem?_eq]
    simp only [Event.opens, hr, Option.bind_eq_bind, Option.bind_some, hb, List.append_nil]
    rfl

/-- The events of the head of a table. -/
def headEvents (line : Nat) (header : List (String × Option Alignment)) : List Event :=
  .opens .head line :: (.opens .row line :: headerEvents line header ++ [.leave .row])
    ++ [.leave .head]

/-- The events of the body of a table, if it has one. -/
def bodyEvents (line : Nat) (aligns : List (Option Alignment)) (rows : List (List String)) :
    List Event :=
  if rows.isEmpty then [] else .opens .body line :: Event.ofRows line aligns rows ++ [.leave .body]

theorem ofTable_eq (line : Nat) (header : List (String × Option Alignment))
    (rows : List (List String)) :
    Event.ofTable line header rows
      = .opens .table line
        :: (headEvents line header ++ bodyEvents line (header.map (·.2)) rows)
        ++ [.leave .table] := by
  simp [Event.ofTable, headEvents, bodyEvents, headerEvents]

theorem headCells_headEvents {line : Nat} {header : List (String × Option Alignment)}
    (hs : Stands events i (headEvents line header)) :
    Reads events (i + 1) (headCells events · (i + 1))
      (some (headOf header, i + (headEvents line header).length)) := by
  have heq : headEvents line header = .opens .head line :: .opens .row line
      :: (headerEvents line header ++ [.leave .row, .leave .head]) := by
    simp [headEvents]
  have hlen : i + (headEvents line header).length
      = i + 1 + 1 + (headerEvents line header).length + 1 + 1 := by
    simp only [heq, List.length_cons, List.length_append, List.length_nil]
    omega
  rw [hlen]
  rw [heq] at hs
  have hout := hs.tail.tail.right
  have hend : Reads events (i + 1 + 1 + (headerEvents line header).length + 1)
      (headCells events · (i + 1 + 1 + (headerEvents line header).length + 1))
      (some ([], i + 1 + 1 + (headerEvents line header).length + 1 + 1)) :=
    Reads.step hout.tail fun fuel _ => by rw [headCells, hout.tail.getElem?_eq]
  have hrow := headCells_headerEvents hs.tail.tail.left (Reads.step hout fun fuel hf => by
    rw [headCells, hout.getElem?_eq]
    exact hend fuel (by omega))
  refine Reads.step hs.tail fun fuel hf => ?_
  rw [headCells, hs.tail.getElem?_eq]
  simpa only [Event.opens, List.append_nil] using hrow fuel (by omega)

/-- After the head of a table, its body is read and its end found. -/
theorem tableFrom_bodyEvents {line : Nat} {aligns : List (Option Alignment)}
    {rows : List (List String)}
    (hs : Stands events i (bodyEvents line aligns rows ++ [.leave .table])) :
    Reads events i (tableFrom events · i)
      (some ({ rows := rows.map fun row => row.map trimmed },
        i + ((bodyEvents line aligns rows).length + 1))) := by
  have hout := hs.right
  have hend : Reads events (i + (bodyEvents line aligns rows).length)
      (tableFrom events · (i + (bodyEvents line aligns rows).length))
      (some ({}, i + (bodyEvents line aligns rows).length + 1)) :=
    Reads.step hout fun fuel _ => by rw [tableFrom, hout.getElem?_eq]
  rcases rows with _ | ⟨row, rows⟩
  · simpa [bodyEvents] using hend
  · have heq : bodyEvents line aligns (row :: rows)
        = .opens .body line :: (Event.ofRows line aligns (row :: rows) ++ [.leave .body]) := rfl
    have hlen : i + (bodyEvents line aligns (row :: rows)).length
        = i + 1 + (Event.ofRows line aligns (row :: rows)).length + 1 := by
      simp only [heq, List.length_cons, List.length_append, List.length_nil]
      omega
    rw [hlen] at hend
    have hbody := hs.left
    rw [heq] at hbody
    have hleave := hbody.tail.right
    have hread : Reads events (i + 1) (bodyRows events · (i + 1))
        (some ((row :: rows).map (fun row => row.map trimmed) ++ [],
          i + 1 + (Event.ofRows line aligns (row :: rows)).length + 1)) :=
      bodyRows_ofRows hbody.tail.left (Reads.step hleave fun fuel _ => by
        rw [bodyRows, hleave.getElem?_eq])
    refine Reads.step hbody fun fuel hf => ?_
    have hr := hread fuel (by omega)
    have ht := hend fuel (by omega)
    rw [tableFrom, hbody.getElem?_eq, ← Nat.add_assoc, hlen]
    simp only [Event.opens, hr, Option.bind_eq_bind, Option.bind_some, ht, List.append_nil]

/-- A table is read as it was written. -/
theorem tableFrom_ofTable {line : Nat} {header : List (String × Option Alignment)}
    {rows : List (List String)} (hs : Stands events i (Event.ofTable line header rows)) :
    Reads events (i + 1) (tableFrom events · (i + 1))
      (some (⟨headOf header, rows.map fun row => row.map trimmed⟩,
        i + (Event.ofTable line header rows).length)) := by
  rw [ofTable_eq, List.cons_append, List.append_assoc] at hs
  have hhead := hs.tail.left
  have hbody := tableFrom_bodyEvents hs.tail.right
  have hread := headCells_headEvents hhead
  have hlen : i + (Event.ofTable line header rows).length
      = i + 1 + (headEvents line header).length
        + ((bodyEvents line (header.map (·.2)) rows).length + 1) := by
    simp only [ofTable_eq, List.length_cons, List.length_append, List.length_nil]
    omega
  refine Reads.step hhead.left fun fuel hf => ?_
  have hr := hread fuel (by omega)
  have hb := hbody fuel (by simp only [headEvents, List.length_append, List.length_cons]; omega)
  rw [tableFrom, hhead.left.getElem?_eq, hlen]
  simp only [Event.opens, hr, Option.bind_eq_bind, Option.bind_some, hb, List.append_nil]

/-! ## Blocks -/

theorem Level.ofCell (part : Part) (line : Nat) (text : String) (align : Option Alignment) :
    Level (Event.ofCell part line text align) :=
  enclosed (single rfl)

theorem Level.ofCells (line : Nat) (aligns : List (Option Alignment)) (row : List String) :
    Level (Event.ofCells line aligns row) := by
  induction row generalizing aligns with
  | nil => exact nil
  | cons text row ih => exact (ofCell _ _ _ _).append (ih _)

theorem Level.ofRows (line : Nat) (aligns : List (Option Alignment)) (rows : List (List String)) :
    Level (Event.ofRows line aligns rows) := by
  induction rows with
  | nil => exact nil
  | cons row rows ih =>
    have hrow : Level (.opens .row line :: Event.ofCells line aligns row ++ [.leave .row]) :=
      enclosed (ofCells line aligns row)
    simpa [Event.ofRows] using hrow.append ih

/-- The events of a table stand between two that open and close it. -/
theorem Level.inTable (line : Nat) (header : List (String × Option Alignment))
    (aligns : List (Option Alignment)) (rows : List (List String)) :
    Level (headEvents line header ++ bodyEvents line aligns rows) := by
  refine append (enclosed (enclosed (flatMap (fun cell => ofCell _ _ _ _) header))) ?_
  unfold bodyEvents
  split
  · exact nil
  · exact enclosed (ofRows line aligns rows)

end Reading

end Manuscript.Markdown
