import Manuscript.Proofs.Markdown.Attribution

/-!
# What lists leave out

Headings, tables, thematic breaks, markup of another language and data are no text of an item
and are left out of it. A walk through the events of a list tells which of them there are
(`leftOut`): it keeps the parts that are open and passes over what stands inside a heading or a
table, for that is left out with it. The reader of lists jumps over these parts as a whole, and
gives one notice for each of them, in the same order (`Nest.isNoticed`).

Here a heading and a table may hold whatever events close what they open (`IsBalanced`), other
headings and tables among them (`IsListed`).

* `leftOut_append`: the walk comes out of balanced events with the parts that were open before;
* `items_of_isListed`: the names in the notices on a list are those that the walk finds.
-/

namespace Manuscript.Markdown

open Manuscript.Log

/-! ## Balanced events -/

/-- Events that close what they open, and nothing else. -/
inductive IsBalanced : List Event → Prop
  | nil : IsBalanced []
  | single {e : Event} {rest : List Event} :
    e.nesting = 0 → IsBalanced rest → IsBalanced (e :: rest)
  | part {part : Part} {line depth : Nat} {start : Option Nat} {style : Option String}
      {es rest : List Event} :
    IsBalanced es → IsBalanced rest →
    IsBalanced (.enter part line depth start style :: es ++ .leave part :: rest)

namespace IsBalanced

variable {es fs : List Event} {part : Part} {line depth : Nat} {start : Option Nat}
  {style : Option String}

theorem append (h : IsBalanced es) (h' : IsBalanced fs) : IsBalanced (es ++ fs) := by
  induction h with
  | nil => exact h'
  | single he _ ih => exact .single he ih
  | part hes _ _ ih =>
    rw [List.append_assoc, List.cons_append]
    exact .part hes ih

theorem enclosed (h : IsBalanced es) :
    IsBalanced (.enter part line depth start style :: es ++ [.leave part]) :=
  .part h .nil

theorem level (h : IsBalanced es) : Reading.Level es := by
  induction h with
  | nil => exact .nil
  | single he _ ih => exact (Reading.Level.single he).append ih
  | part _ _ ih ih' =>
    rw [List.append_cons]
    exact (Reading.Level.enclosed ih).append ih'

end IsBalanced

theorem IsTableContent.isBalanced {es : List Event} (h : IsTableContent es) : IsBalanced es := by
  induction h with
  | nil => exact .nil
  | text _ ih => exact .single rfl ih
  | part _ _ _ ih ih' => exact .part ih ih'

/-! ## Lists -/

/-- A part that is left out of an item as a whole. -/
def Part.isLeftOut : Part → Bool
  | heading | table => true
  | _ => false

/-- Events of lists, the items of which hold blocks: like `IsNested`, but for what headings and
    tables hold. -/
inductive IsListed : Nest → List Event → Prop
  | paragraph {line depth : Nat} {start : Option Nat} {style : Option String} (text : String) :
    IsListed .block (Event.around (.enter .paragraph line depth start style) .paragraph text)
  | fence {line : Nat} (info text : String) : IsListed .block [.fence line info text]
  | indented {line : Nat} (text : String) : IsListed .block [.indented line text]
  | aside {e : Event} : e.isAside = true → IsListed .block [e]
  | leftOut {part : Part} {line depth : Nat} {start : Option Nat} {style : Option String}
      {es : List Event} :
    part.isLeftOut = true → IsBalanced es →
    IsListed .block (.enter part line depth start style :: es ++ [.leave part])
  | quote {line depth : Nat} {start : Option Nat} {style : Option String} {es : List Event} :
    IsListed .blocks es →
    IsListed .block (.enter .quote line depth start style :: es ++ [.leave .quote])
  | list {part : Part} {line depth : Nat} {start : Option Nat} {style : Option String}
      {es : List Event} :
    part = .bulletList ∨ part = .orderedList → IsListed .items es →
    IsListed .block (.enter part line depth start style :: es ++ [.leave part])
  | noBlocks : IsListed .blocks []
  | blocks {es rest : List Event} :
    IsListed .block es → IsListed .blocks rest → IsListed .blocks (es ++ rest)
  | noItems : IsListed .items []
  | items {line depth : Nat} {start : Option Nat} {style : Option String}
      {es rest : List Event} :
    IsListed .blocks es → IsListed .items rest →
    IsListed .items (.enter .item line depth start style :: es ++ .leave .item :: rest)

namespace IsListed

variable {nest : Nest} {es : List Event}

theorem of_isLeftOut (h : IsLeftOut es) : IsListed .block es := by
  cases h with
  | heading text => exact .leftOut rfl (.single rfl .nil)
  | table hcontent => exact .leftOut rfl hcontent.isBalanced
  | aside he => exact .aside he

/-- Well-nested events are those of a list. -/
theorem of_isNested (h : IsNested nest es) : IsListed nest es := by
  induction h with
  | paragraph text => exact .paragraph text
  | fence info text => exact .fence info text
  | indented text => exact .indented text
  | leftOut hout => exact of_isLeftOut hout
  | quote _ ih => exact .quote ih
  | list hpart _ ih => exact .list hpart ih
  | noBlocks => exact .noBlocks
  | blocks _ _ ih ih' => exact .blocks ih ih'
  | noItems => exact .noItems
  | items _ _ ih ih' => exact .items ih ih'

theorem isBalanced (h : IsListed nest es) : IsBalanced es := by
  induction h with
  | paragraph text => exact .enclosed (.single rfl .nil)
  | fence info text => exact .single rfl .nil
  | indented text => exact .single rfl .nil
  | @aside e he =>
    refine .single ?_ .nil
    cases e <;> first | rfl | cases he
  | leftOut _ hes => exact hes.enclosed
  | quote _ ih => exact ih.enclosed
  | list _ _ ih => exact ih.enclosed
  | noBlocks => exact .nil
  | blocks _ _ ih ih' => exact ih.append ih'
  | noItems => exact .nil
  | items _ _ ih ih' => exact .part ih ih'

end IsListed

/-! ## A walk -/

/-- Whether an event begins a block that is left out. -/
def Event.beginsLeftOut : Event → Bool
  | .enter part _ _ _ _ => part.isLeftOut
  | e => e.isAside

/-- The parts that are open after an event, the innermost of which comes first. -/
def openAfter (opened : List Part) : Event → List Part
  | .enter part _ _ _ _ => part :: opened
  | .leave _ => opened.tail
  | _ => opened

/-- The names of the blocks among some events that are left out and stand in no other one. The
    parts `opened` are open, the innermost of which comes first. -/
def leftOut : (opened : List Part) → List Event → List String
  | _, [] => []
  | o, e :: es =>
    (if e.beginsLeftOut && !o.any Part.isLeftOut then [e.name] else []) ++ leftOut (openAfter o e) es

section

variable {o : List Part} {es fs : List Event} {part : Part} {line depth : Nat}
  {start : Option Nat} {style : Option String}

theorem openAfter_of_nesting {e : Event} (he : e.nesting = 0) (o : List Part) :
    openAfter o e = o := by
  cases e with
  | enter => cases he
  | leave => cases he
  | _ => rfl

/-- A walk comes out of balanced events with the parts that were open before. -/
theorem leftOut_append (h : IsBalanced es) (o : List Part) (fs : List Event) :
    leftOut o (es ++ fs) = leftOut o es ++ leftOut o fs := by
  induction h generalizing o fs with
  | nil => rfl
  | single he _ ih =>
    rw [List.cons_append, leftOut, leftOut, openAfter_of_nesting he, ih, List.append_assoc]
  | part _ _ ih ih' =>
    -- When the part ends, it is the innermost of the open ones again.
    simp only [List.append_assoc, List.cons_append, leftOut, ih, openAfter, List.tail_cons, ih']

/-- A part, and what comes after it. -/
theorem leftOut_enclosed (h : IsBalanced es) (o : List Part) (fs : List Event) :
    leftOut o (.enter part line depth start style :: es ++ .leave part :: fs)
      = (if part.isLeftOut && !o.any Part.isLeftOut then [part.name ++ "_open"] else [])
        ++ (leftOut (part :: o) es ++ leftOut o fs) := by
  rw [List.cons_append, leftOut, openAfter, leftOut_append h]
  rfl

/-- Nothing counts that stands in a heading or in a table. -/
theorem leftOut_of_any (h : IsBalanced es) (ho : o.any Part.isLeftOut = true) :
    leftOut o es = [] := by
  induction h generalizing o with
  | nil => rfl
  | single he _ ih =>
    rw [leftOut, ho, Bool.not_true, Bool.and_false, if_neg Bool.false_ne_true,
      openAfter_of_nesting he, ih ho, List.append_nil]
  | part hes _ ih ih' =>
    rw [leftOut_enclosed hes, ho, Bool.not_true, Bool.and_false, if_neg Bool.false_ne_true, ih' ho,
      ih (by rw [List.any_cons, ho, Bool.or_true])]
    rfl

theorem beginsLeftOut_of_isAside {e : Event} (he : e.isAside = true) : e.beginsLeftOut = true := by
  cases e with
  | rule line => rfl
  | html line raw => rfl
  | frontMatter text => rfl
  | _ => cases he

end

/-! ## Notices -/

/-- The name of what a notice says to be left out of an item. -/
def leftOutOfItem? : Notice → Option String
  | .leftOutOfItem type => some type
  | _ => none

/-- The notices on the way name the blocks that are left out, in order. -/
def IsNoticed (es : List Event) (said : List Notice) : Prop :=
  ∀ o : List Part, o.any Part.isLeftOut = false → said.filterMap leftOutOfItem? = leftOut o es

namespace IsNoticed

variable {es fs : List Event} {said said' : List Notice} {part : Part} {line depth : Nat}
  {start : Option Nat} {style : Option String}

theorem append (hes : IsBalanced es) (h : IsNoticed es said) (h' : IsNoticed fs said') :
    IsNoticed (es ++ fs) (said ++ said') := fun o ho => by
  rw [List.filterMap_append, leftOut_append hes, h o ho, h' o ho]

/-- What encloses blocks that are left out is not left out itself. -/
theorem enclosed (hes : IsBalanced es) (hpart : part.isLeftOut = false) (h : IsNoticed es said) :
    IsNoticed (.enter part line depth start style :: es ++ [.leave part]) said := fun o ho => by
  rw [leftOut_enclosed hes, hpart, Bool.false_and, if_neg Bool.false_ne_true, leftOut,
    List.append_nil, List.nil_append, h]
  rw [List.any_cons, hpart, ho, Bool.or_false]

/-- A heading or a table is named, and nothing in it. -/
theorem whole (hes : IsBalanced es) (hpart : part.isLeftOut = true) :
    IsNoticed (.enter part line depth start style :: es ++ [.leave part])
      [.leftOutOfItem (Event.enter part line depth start style).name] := fun o ho => by
  rw [leftOut_enclosed hes, hpart, ho, Bool.not_false, Bool.and_true, if_pos rfl,
    leftOut_of_any hes (by rw [List.any_cons, hpart, Bool.true_or])]
  rfl

theorem aside {e : Event} (he : e.isAside = true) : IsNoticed [e] [.leftOutOfItem e.name] :=
    fun o ho => by
  rw [leftOut, beginsLeftOut_of_isAside he, ho, Bool.not_false, Bool.and_true, if_pos rfl]
  rfl

/-- Other events of one block are not left out. -/
theorem silent {e : Event} (he : e.beginsLeftOut = false) (hsaid : said.filterMap leftOutOfItem? = []) :
    IsNoticed [e] said := fun o _ => by
  rw [hsaid, leftOut, he, Bool.false_and, if_neg Bool.false_ne_true]
  rfl

end IsNoticed

/-- What is read of the events in an item or in a list, and the notices on the way. -/
def Nest.IsNoticed : Nest → List Event → Prop
  | .block, es | .blocks, es =>
    ∃ part said, Reading.AddsToItem es part said ∧ Markdown.IsNoticed es said
  | .items, es => ∃ texts said, Reading.MakesItems es texts said ∧ Markdown.IsNoticed es said

theorem IsListed.isNoticed {nest : Nest} {es : List Event} (h : IsListed nest es) :
    nest.IsNoticed es := by
  induction h with
  | paragraph text =>
    exact ⟨_, _, .paragraph text, .enclosed (.single rfl .nil) rfl (.silent rfl rfl)⟩
  | fence info text => exact ⟨_, _, .fence info text, .silent rfl rfl⟩
  | indented text => exact ⟨_, _, .indented text, .silent rfl rfl⟩
  | aside he => exact ⟨_, _, .aside he, .aside he⟩
  | @leftOut part _ _ _ _ es hpart hes =>
    have hpart' : part = .heading ∨ part = .table := by
      cases part with
      | heading => exact .inl rfl
      | table => exact .inr rfl
      | _ => cases hpart
    exact ⟨_, _, .leftOut hpart' hes.level, .whole hes hpart⟩
  | quote hes ih =>
    -- The notice on the quotation itself names nothing that is left out.
    obtain ⟨part, said, hreads, hsaid⟩ := ih
    exact ⟨part, _, hreads.quote, fun o ho => hsaid.enclosed hes.isBalanced rfl o ho⟩
  | @list part _ _ _ _ es hpart hes ih =>
    obtain ⟨texts, said, hreads, hsaid⟩ := ih
    have hout : part.isLeftOut = false := by
      rcases hpart with rfl | rfl <;> rfl
    exact ⟨_, said, .list hpart hreads, hsaid.enclosed hes.isBalanced hout⟩
  | noBlocks => exact ⟨{}, [], .nil, fun _ _ => rfl⟩
  | blocks hes _ ih ih' =>
    obtain ⟨part, said, hreads, hsaid⟩ := ih
    obtain ⟨part', said', hreads', hsaid'⟩ := ih'
    exact ⟨_, _, hreads.append hreads', hsaid.append hes.isBalanced hsaid'⟩
  | noItems => exact ⟨[], [], .nil, fun _ _ => rfl⟩
  | items hes _ ih ih' =>
    obtain ⟨part, said, hreads, hsaid⟩ := ih
    obtain ⟨texts, said', hreads', hsaid'⟩ := ih'
    refine ⟨_, _, .cons hreads hreads', ?_⟩
    rw [List.append_cons]
    exact .append hes.isBalanced.enclosed (hsaid.enclosed hes.isBalanced rfl) hsaid'

/-- A list is read to its end, in any stream and wherever it stands in it, and the notices on
    the way name what is left out of its items. -/
theorem items_of_isListed {es : List Event} {list : Part} {line depth : Nat}
    {start : Option Nat} {style : Option String} {events : Array Event} {i : Nat}
    (hlist : list = .bulletList ∨ list = .orderedList) (h : IsListed .items es)
    (hs : Stands events i (.enter list line depth start style :: es ++ [.leave list])) :
    ∃ p : Reading.Passage (List String),
      Reads events (i + 1) (Reading.items events list · (i + 1)) (some p)
      ∧ p.said.filterMap leftOutOfItem? = leftOut [list] es := by
  obtain ⟨texts, said, hreads, hsaid⟩ := h.isNoticed
  refine ⟨_, hreads events (i + 1) list hs.tail, hsaid _ ?_⟩
  rcases hlist with rfl | rfl <;> rfl

end Manuscript.Markdown
