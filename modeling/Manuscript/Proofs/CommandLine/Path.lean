import Manuscript.CommandLine.Run
import Mathlib.Data.List.Basic

/-!
# Regular paths

A path is regular if it starts from a root that can be written and leads by names that can be
written: they are not empty, no single points, and have no slash in them (`Path.IsRegular`). A
text is cut at its slashes, so the names in it have none, and the path that it names is regular.
The other way round, the text of a regular path has slashes in its root and between its names
only, so that the same names are found in it. What is put after a path is one name more on the
way if it is a name; another text may be a way of its own, or begin at a root again.

* `isRegular_iff_exists`: the regular paths are those that texts name;
* `ofString_written`: a regular path is named by its text;
* `child_eq`: one name more on the way.
-/

namespace Manuscript.CommandLine

variable {n : String} {p source : Path}

/-! ## Names between slashes -/

/-- What a name on a way can be: not empty, not a single point, and without a slash. -/
structure IsName (n : String) : Prop where
  ne_empty : n ≠ ""
  ne_point : n ≠ "."
  notMem : '/' ∉ n.toList

theorem names_eq_splitOn (cs : List Char) : names cs = cs.splitOn '/' := by
  fun_induction names cs with
  | case1 => rfl
  | case2 cs ih => rw [List.splitOn_cons_eq_if_modifyHead, ih, if_pos (by decide)]
  | case3 c cs hc hnames ih => exact absurd (ih.symm.trans hnames) (List.splitOn_ne_nil '/' cs)
  | case4 c cs hc front rest hnames ih =>
    have hslash : ¬ (c == '/') = true := fun heq => hc (eq_of_beq heq)
    rw [List.splitOn_cons_eq_if_modifyHead, if_neg hslash, ← ih, hnames]
    rfl

/-- Names between slashes have none. -/
theorem notMem_of_mem_names {cs name : List Char} (h : name ∈ names cs) : '/' ∉ name := by
  fun_induction names cs generalizing name with
  | case1 =>
    rw [List.mem_singleton.1 h]
    exact List.not_mem_nil
  | case2 cs ih =>
    rcases List.mem_cons.1 h with rfl | h
    · exact List.not_mem_nil
    · exact ih h
  | case3 c cs hc hnames ih =>
    rw [names_eq_splitOn] at hnames
    exact absurd hnames (List.splitOn_ne_nil '/' cs)
  | case4 c cs hc front rest hnames ih =>
    rcases List.mem_cons.1 h with rfl | h
    · intro hmem
      rcases List.mem_cons.1 hmem with rfl | hmem
      · exact hc rfl
      · exact ih (hnames ▸ List.mem_cons_self) hmem
    · exact ih (hnames ▸ List.mem_cons_of_mem _ h)

namespace Path

/-- A path from a root, by names that can be on a way. -/
structure IsRegular (p : Path) : Prop where
  root : p.root = "" ∨ p.root = "/" ∨ p.root = "//"
  parts : ∀ n ∈ p.parts, IsName n

/-! ## Texts of paths -/

/-- Every text names a regular path. -/
theorem isRegular_ofString (s : String) : (ofString s).IsRegular := by
  refine ⟨?_, fun n hn => ?_⟩
  · unfold ofString
    dsimp only
    split <;> simp
  · obtain ⟨hmem, hshown⟩ := List.mem_filter.1 hn
    obtain ⟨cs, hcs, rfl⟩ := List.mem_map.1 hmem
    simp only [Bool.and_eq_true, Bool.not_eq_true', bne_iff_ne, ne_eq] at hshown
    refine ⟨fun hempty => ?_, hshown.2, ?_⟩
    · simp [hempty] at hshown
    · rw [String.toList_ofList]
      exact notMem_of_mem_names hcs

/-- Names with slashes between them are found again. -/
theorem parts_ofString_intercalate {ns : List String} (h : ∀ n ∈ ns, IsName n) :
    (ofString ("/".intercalate ns)).parts = ns := by
  cases ns with
  | nil => rfl
  | cons n rest =>
    have hnames : names ("/".intercalate (n :: rest)).toList = (n :: rest).map String.toList := by
      rw [names_eq_splitOn, String.toList_intercalate]
      refine List.splitOn_intercalate '/' (fun l hl => ?_) (List.cons_ne_nil _ _)
      obtain ⟨m, hm, rfl⟩ := List.mem_map.1 hl
      exact (h m hm).notMem
    have hcopy : (String.ofList ∘ String.toList) = id := funext fun _ => String.ofList_toList
    simp only [ofString, hnames]
    rw [List.map_map, hcopy, List.map_id, List.filter_eq_self]
    intro m hm
    simp [(h m hm).ne_empty, (h m hm).ne_point]

/-- A way by names does not begin with a slash. -/
theorem intercalate_ne {ns : List String} (h : ∀ n ∈ ns, IsName n) (cs : List Char) :
    ("/".intercalate ns).toList ≠ '/' :: cs := by
  cases ns with
  | nil => simp
  | cons n rest =>
    have hn := h n List.mem_cons_self
    obtain ⟨c, more, hchars⟩ :=
      List.exists_cons_of_ne_nil fun heq => hn.ne_empty (String.toList_eq_nil_iff.1 heq)
    have hslash : c ≠ '/' := fun heq => hn.notMem (by rw [hchars, heq]; exact List.mem_cons_self)
    intro heq
    cases rest with
    | nil => simp_all
    | cons m rest => simp_all [String.intercalate_cons_cons]

/-- The root and the names that a text is made of are those of the path it names. -/
theorem ofString_append {root : String} {ns : List String}
    (hroot : root = "" ∨ root = "/" ∨ root = "//") (h : ∀ n ∈ ns, IsName n) :
    ofString (root ++ "/".intercalate ns) = ⟨root, ns⟩ := by
  have hslash := fun cs => (intercalate_ne h cs).symm
  have hparts := parts_ofString_intercalate h
  generalize "/".intercalate ns = way at hslash hparts
  -- The slashes of the root are all that the text begins with, and there are no names between them.
  have hstart : (ofString (root ++ way)).root = root := by
    have hchars : (root ++ way).toList = root.toList ++ way.toList := String.toList_append
    unfold ofString
    dsimp only
    split <;> rcases hroot with rfl | rfl | rfl <;> simp_all
  have hrest : (ofString (root ++ way)).parts = (ofString way).parts := by
    rcases hroot with rfl | rfl | rfl <;> simp [ofString, names]
  exact congrArg₂ Path.mk hstart (hrest.trans hparts)

/-- A regular path is named by its text. -/
theorem ofString_written (h : p.IsRegular) : ofString p.written = p := by
  rw [written]
  split
  · next hnone =>
    simp only [Bool.and_eq_true, List.isEmpty_iff, String.isEmpty_iff] at hnone
    obtain ⟨root, parts⟩ := p
    obtain ⟨rfl, rfl⟩ : parts = [] ∧ root = "" := hnone
    decide +kernel
  · exact ofString_append h.root h.parts

/-- The regular paths are those that texts name. -/
theorem isRegular_iff_exists : p.IsRegular ↔ ∃ s, ofString s = p :=
  ⟨fun h => ⟨p.written, ofString_written h⟩, fun ⟨s, h⟩ => h ▸ isRegular_ofString s⟩

/-- A source in the home of a user has a regular path, as any other. -/
theorem IsRegular.expandHome {homes : Homes}
    (hhomes : ∀ user home, homes user = some home → home.IsRegular) (hp : p.IsRegular)
    (h : expandHome homes p = .ok source) : source.IsRegular := by
  rw [CommandLine.expandHome] at h
  split at h
  · exact Except.ok.inj h ▸ hp
  · split at h
    · next first rest hparts =>
      split at h
      · next user _ =>
        cases hhome : homes (String.ofList user) with
        | none =>
          rw [hhome] at h
          cases h
        | some home =>
          rw [hhome] at h
          obtain rfl := Except.ok.inj h
          have hregular := hhomes _ home hhome
          refine ⟨hregular.root, fun n hn => ?_⟩
          rcases List.mem_append.1 hn with hn | hn
          · exact hregular.parts n hn
          · exact hp.parts n (hparts ▸ List.mem_cons_of_mem _ hn)
      · exact Except.ok.inj h ▸ hp
    · exact Except.ok.inj h ▸ hp

/-! ## One name more -/

/-- A path that ends in a name leads by that name from the way before it. -/
theorem parts_eq (h : p.name ≠ "") : p.parts = p.parent.parts ++ [p.name] := by
  rw [Path.name] at h ⊢
  cases hlast : p.parts.getLast? with
  | none => simp [hlast] at h
  | some n => exact (List.dropLast_append_getLast? n hlast).symm

theorem IsRegular.isName (hp : p.IsRegular) (h : p.name ≠ "") : IsName p.name := by
  refine hp.parts p.name ?_
  rw [parts_eq h]
  exact List.mem_append_right _ List.mem_cons_self

theorem parent_concat (d : Path) (n : String) :
    parent { d with parts := d.parts ++ [n] } = d := by
  rw [parent, List.dropLast_concat]

theorem name_concat (d : Path) (n : String) : Path.name { d with parts := d.parts ++ [n] } = n := by
  rw [Path.name, List.getLast?_concat, Option.getD_some]

/-- A name is one more on the way. -/
theorem child_eq (h : IsName n) (d : Path) : d.child n = { d with parts := d.parts ++ [n] } := by
  have hname : ofString n = ⟨"", [n]⟩ := by
    have hone := ofString_append (.inl rfl) (List.forall_mem_singleton.2 h)
    rwa [String.empty_append, String.intercalate_singleton] at hone
  rw [child, hname]
  rfl

theorem child_parent (hp : p.IsRegular) (h : p.name ≠ "") : p.parent.child p.name = p := by
  rw [child_eq (hp.isName h), ← parts_eq h]
  rfl

end Path

end Manuscript.CommandLine
