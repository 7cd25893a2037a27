import Manuscript.Xml.Tree
import Mathlib.Data.List.Induction

/-!
# Insertion

The properties of a paragraph, of a table and of a cell are put in one at a time: each goes
before the first child of a kind that may follow it (`insertBefore`). What may follow lines,
colours and margins is written out by name, and it is what the schema lets follow them
(`followers_eq`). All that is put in comes to the order of the schema, in whatever order it is
put in (`insertAll_eq`).
-/

namespace Manuscript.Package

open Manuscript.Xml

/-! ## Kinds -/

/-- The kinds of properties of a paragraph. -/
def paragraphKinds : List String :=
  ["w:pStyle", "w:keepNext", "w:keepLines", "w:pageBreakBefore", "w:framePr", "w:widowControl",
    "w:numPr", "w:suppressLineNumbers", "w:pBdr", "w:shd", "w:tabs", "w:suppressAutoHyphens",
    "w:kinsoku", "w:wordWrap", "w:overflowPunct", "w:topLinePunct", "w:autoSpaceDE",
    "w:autoSpaceDN", "w:bidi", "w:adjustRightInd", "w:snapToGrid", "w:spacing", "w:ind",
    "w:contextualSpacing", "w:mirrorIndents", "w:suppressOverlap", "w:jc", "w:textDirection",
    "w:textAlignment", "w:textboxTightWrap", "w:outlineLvl", "w:divId", "w:cnfStyle", "w:rPr",
    "w:sectPr", "w:pPrChange"]

/-- The kinds of properties of a table. -/
def tableKinds : List String :=
  ["w:tblStyle", "w:tblpPr", "w:tblOverlap", "w:bidiVisual", "w:tblStyleRowBandSize",
    "w:tblStyleColBandSize", "w:tblW", "w:jc", "w:tblCellSpacing", "w:tblInd", "w:tblBorders",
    "w:shd", "w:tblLayout", "w:tblCellMar", "w:tblLook", "w:tblCaption", "w:tblDescription"]

/-- The kinds of properties of a cell. -/
def cellKinds : List String :=
  ["w:cnfStyle", "w:tcW", "w:gridSpan", "w:hMerge", "w:vMerge", "w:tcBorders", "w:shd", "w:noWrap",
    "w:tcMar", "w:textDirection", "w:tcFitText", "w:vAlign", "w:hideMark"]

/-- The kinds of properties that an element may hold, in the order of the schema. -/
def propertyKinds : String → Option (List String)
  | "w:pPr" => some paragraphKinds
  | "w:tblPr" => some tableKinds
  | "w:tcPr" => some cellKinds
  | _ => none

theorem nodup_propertyKinds {parent : String} {kinds : List String}
    (h : propertyKinds parent = some kinds) : kinds.Nodup := by
  unfold propertyKinds at h
  split at h
  case h_4 => cases h
  all_goals
    obtain rfl := Option.some.inj h
    decide

/-- What may follow the line along one side of a paragraph. -/
def borderFollowers : List String :=
  ["w:shd", "w:tabs", "w:suppressAutoHyphens", "w:kinsoku", "w:wordWrap", "w:overflowPunct",
    "w:topLinePunct", "w:autoSpaceDE", "w:autoSpaceDN", "w:bidi", "w:adjustRightInd",
    "w:snapToGrid", "w:spacing", "w:ind", "w:contextualSpacing", "w:mirrorIndents",
    "w:suppressOverlap", "w:jc", "w:textDirection", "w:textAlignment", "w:textboxTightWrap",
    "w:outlineLvl", "w:divId", "w:cnfStyle", "w:rPr", "w:sectPr", "w:pPrChange"]

/-- What may follow the colour behind a paragraph. -/
def shadingFollowers : List String := borderFollowers.tail

/-- What may follow the lines of a table. -/
def tableLineFollowers : List String :=
  ["w:shd", "w:tblLayout", "w:tblCellMar", "w:tblLook", "w:tblCaption", "w:tblDescription"]

/-- What may follow the margins of the cells of a table. -/
def tableMarginFollowers : List String := ["w:tblLook", "w:tblCaption", "w:tblDescription"]

/-- What may follow the lines of a cell. -/
def cellLineFollowers : List String :=
  ["w:shd", "w:noWrap", "w:tcMar", "w:textDirection", "w:tcFitText", "w:vAlign", "w:hideMark"]

/-- What may follow the margins of a cell. -/
def cellMarginFollowers : List String :=
  ["w:textDirection", "w:tcFitText", "w:vAlign", "w:hideMark"]

/-- The kinds that may follow one, in the order of the schema. -/
def kindsAfter (order : List String) (kind : String) : List String :=
  (order.dropWhile (· != kind)).tail

/-- What may follow a property of a kind in an element: for lines, colours and margins what is
    written out for them, and for any other what the schema lets follow it. -/
def followers (parent kind : String) : List String :=
  match parent, kind with
  | "w:pPr", "w:pBdr" => borderFollowers
  | "w:pPr", "w:shd" => shadingFollowers
  | "w:tblPr", "w:tblBorders" => tableLineFollowers
  | "w:tblPr", "w:tblCellMar" => tableMarginFollowers
  | "w:tcPr", "w:tcBorders" => cellLineFollowers
  | "w:tcPr", "w:tcMar" => cellMarginFollowers
  | _, _ => kindsAfter ((propertyKinds parent).getD []) kind

/-- What is written out is what the schema lets follow. -/
theorem followers_eq {parent : String} {kinds : List String}
    (h : propertyKinds parent = some kinds) (kind : String) :
    followers parent kind = kindsAfter kinds kind := by
  unfold followers
  split
  case h_7 => rw [h, Option.getD_some]
  all_goals
    obtain rfl := Option.some.inj h
    decide

theorem kindsAfter_append {before after : List String} {kind : String} (h : kind ∉ before) :
    kindsAfter (before ++ kind :: after) kind = after := by
  have hskip : ∀ k ∈ before, (k != kind) = true := fun k hk =>
    bne_iff_ne.2 fun heq => h (heq ▸ hk)
  rw [kindsAfter, List.dropWhile_append_of_pos hskip, List.dropWhile_cons_of_neg (by simp),
    List.tail_cons]

/-! ## Order -/

/-- The elements among some trees are of some kinds, each at most once and in order. -/
def OnceIn (names : List String) (ts : List Tree) : Prop := (ts.filterMap Tree.name?).Sublist names

theorem OnceIn.nil {ns : List String} : OnceIn ns [] := List.nil_sublist ns

theorem OnceIn.append {ns ms : List String} {ts us : List Tree} (ht : OnceIn ns ts)
    (hu : OnceIn ms us) : OnceIn (ns ++ ms) (ts ++ us) := by
  rw [OnceIn, List.filterMap_append]
  exact List.Sublist.append ht hu

theorem OnceIn.singleton {name : String} {t : Tree} (h : t.name? = some name) :
    OnceIn [name] [t] := by
  simp [OnceIn, h]

/-- An element of one kind, if there is one. -/
theorem OnceIn.optional {name : String} {α : Type} {f : α → Tree}
    (hname : ∀ a, (f a).name? = some name) (o : Option α) : OnceIn [name] (o.map f).toList := by
  cases o with
  | none => exact List.nil_sublist _
  | some a => exact .singleton (hname a)

theorem OnceIn.ite {p : Prop} [Decidable p] {ns : List String} {ts us : List Tree}
    (ht : OnceIn ns ts) (hu : OnceIn ns us) : OnceIn ns (if p then ts else us) := by
  split
  · exact ht
  · exact hu

/-! ## Insertion -/

/-- Puts an element before the first child of the first kind, among some, that there is a child
    of; at the end if there is none. -/
def insertBefore (kinds : List String) (t : Tree) (content : List Tree) : List Tree :=
  match kinds.find? fun kind => content.any fun c => c.name? == some kind with
  | none => content ++ [t]
  | some kind =>
    content.takeWhile (fun c => c.name? != some kind) ++
      t :: content.dropWhile fun c => c.name? != some kind

/-- Puts an element among the properties that an element holds. -/
def insertInto (parent : String) (content : List Tree) (t : Tree) : List Tree :=
  insertBefore (followers parent (t.name?.getD "")) t content

/-- The first of some kinds that there is an element of, if the elements are of these kinds and
    in their order. -/
theorem find?_kind {kinds : List String} (hkinds : kinds.Nodup) {n : String} {rest : List String}
    (h : (n :: rest).Sublist kinds) {p : String → Bool} (hp : p n = true)
    (hother : ∀ kind ∈ kinds, kind ∉ n :: rest → p kind = false) : kinds.find? p = some n := by
  induction kinds with
  | nil => cases h
  | cons kind more ih =>
    obtain ⟨hmem, hmore⟩ := List.nodup_cons.1 hkinds
    rw [List.find?_cons]
    rcases List.sublist_cons_iff.1 h with hsub | ⟨_, heq, _⟩
    · -- This kind comes before that of the first element, and none is of it.
      have hnot : kind ∉ n :: rest := fun hkind => hmem (hsub.subset hkind)
      rw [hother kind List.mem_cons_self hnot]
      exact ih hmore hsub fun k hk => hother k (List.mem_cons_of_mem _ hk)
    · obtain ⟨rfl, -⟩ := List.cons.inj heq
      rw [hp]

/-- An element goes between those of kinds before its own and those of kinds after it. -/
theorem insertBefore_eq {before after : List String} (hafter : after.Nodup)
    (hdisjoint : ∀ kind ∈ after, kind ∉ before) {as bs : List Tree} (has : OnceIn before as)
    (hbs : OnceIn after bs) (helements : ∀ b ∈ bs, b.isElement = true) (t : Tree) :
    insertBefore after t (as ++ bs) = as ++ t :: bs := by
  have hleft {kind : String} (hkind : kind ∈ after) : ∀ c ∈ as, c.name? ≠ some kind :=
    fun c hc hname =>
      hdisjoint kind hkind (List.Sublist.subset has (List.mem_filterMap.2 ⟨c, hc, hname⟩))
  cases bs with
  | nil =>
    have hnone : after.find? (fun kind => (as ++ []).any fun c => c.name? == some kind) = none :=
      List.find?_eq_none.2 fun kind hkind => by simpa using hleft hkind
    rw [insertBefore, hnone]
    simp
  | cons b rest =>
    obtain ⟨n, hn⟩ := Option.isSome_iff_exists.1 (helements b List.mem_cons_self)
    rw [OnceIn, List.filterMap_cons_some hn] at hbs
    have hfirst : after.find? (fun kind => (as ++ b :: rest).any fun c => c.name? == some kind)
        = some n := by
      refine find?_kind hafter hbs (by simp [hn]) fun kind hkind hother => ?_
      rw [List.any_eq_false]
      intro c hc hname
      rcases List.mem_append.1 hc with hc | hc
      · exact hleft hkind c hc (eq_of_beq hname)
      · refine hother ?_
        rw [← List.filterMap_cons_some hn]
        exact List.mem_filterMap.2 ⟨c, hc, eq_of_beq hname⟩
    have hskip : ∀ c ∈ as, (c.name? != some n) = true := fun c hc =>
      bne_iff_ne.2 (hleft (hbs.subset List.mem_cons_self) c hc)
    rw [insertBefore, hfirst]
    simp only [List.takeWhile_append_of_pos hskip, List.dropWhile_append_of_pos hskip]
    simp [hn]

/-- An element that is put in comes to stand where it may. -/
theorem insertInto_eq {parent : String} {kinds : List String}
    (hkinds : propertyKinds parent = some kinds) {as bs : List Tree} {t : Tree}
    (honce : OnceIn kinds (as ++ t :: bs)) (helements : ∀ c ∈ as ++ t :: bs, c.isElement = true) :
    insertInto parent (as ++ bs) t = as ++ t :: bs := by
  obtain ⟨n, hn⟩ := Option.isSome_iff_exists.1
    (helements t (List.mem_append_right _ List.mem_cons_self))
  have hnodup : kinds.Nodup := nodup_propertyKinds hkinds
  rw [insertInto, hn, Option.getD_some, followers_eq hkinds]
  rw [OnceIn, List.filterMap_append, List.filterMap_cons_some hn, List.append_sublist_iff] at honce
  obtain ⟨before, rest, rfl, has, hrest⟩ := honce
  obtain ⟨upTo, after, rfl, hmem, hbs⟩ := List.cons_sublist_iff.1 hrest
  obtain ⟨between, beyond, rfl⟩ := List.append_of_mem hmem
  have heq : before ++ (between ++ n :: beyond ++ after)
      = (before ++ between) ++ n :: (beyond ++ after) := by simp
  rw [heq] at hnodup ⊢
  obtain ⟨-, hafter, hdisjoint⟩ := List.nodup_append.1 hnodup
  obtain ⟨-, hafter⟩ := List.nodup_cons.1 hafter
  rw [kindsAfter_append fun hmem =>
    hdisjoint n hmem n List.mem_cons_self rfl]
  refine insertBefore_eq hafter (fun kind hkind hbefore => ?_)
    (has.trans (List.sublist_append_left before between))
    (hbs.trans (List.sublist_append_right beyond after))
    (fun b hb => helements b (List.mem_append_right _ (List.mem_cons_of_mem _ hb))) t
  exact hdisjoint kind hbefore kind (List.mem_cons_of_mem _ hkind) rfl

/-- What is put in comes to one content, in whatever order it is put in. -/
theorem insertAll_eq {parent : String} {kinds : List String}
    (hkinds : propertyKinds parent = some kinds) {content parts : List Tree}
    (honce : OnceIn kinds content) (helements : ∀ c ∈ content, c.isElement = true)
    (hperm : parts.Perm content) : parts.foldl (insertInto parent) [] = content := by
  induction parts using List.reverseRecOn generalizing content with
  | nil => exact hperm.nil_eq
  | append_singleton rest t ih =>
    -- The last one goes between the others, which are in order by then.
    obtain ⟨as, bs, rfl⟩ :=
      List.append_of_mem (hperm.subset (List.mem_append_right _ List.mem_cons_self))
    have hrest : rest.Perm (as ++ bs) := List.Perm.cons_inv
      (((List.perm_append_singleton t rest).symm.trans hperm).trans List.perm_middle)
    have hsub : (as ++ bs).Sublist (as ++ t :: bs) :=
      List.Sublist.append (List.Sublist.refl as) (List.sublist_cons_self t bs)
    rw [List.foldl_append, ih ((hsub.filterMap _).trans honce)
      (fun c hc => helements c (hsub.subset hc)) hrest]
    exact insertInto_eq hkinds honce helements

/-- The properties that an element holds are what they come to, in whatever order they are put in
    one at a time; and so it is when only some of them have been put in. -/
def Placed : Tree → Prop
  | .element name _ content =>
    (propertyKinds name).isSome → ∀ kept parts : List Tree,
      kept.Sublist (content.filter Tree.isElement) → parts.Perm kept →
      parts.foldl (insertInto name) [] = kept
  | _ => True

theorem placed_of_onceIn {name : String} {kinds : List String}
    (hkinds : propertyKinds name = some kinds) {attributes : List (String × String)}
    {content : List Tree} (honce : OnceIn kinds content) :
    Placed (.element name attributes content) := fun _ kept parts hkept hperm => by
  have hsub : kept.Sublist content := hkept.trans List.filter_sublist
  exact insertAll_eq hkinds ((hsub.filterMap _).trans honce)
    (fun c hc => (List.mem_filter.1 (hkept.subset hc)).2) hperm

end Manuscript.Package
