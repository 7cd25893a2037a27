import Manuscript.Proofs.Convert.Stages
import Manuscript.Proofs.Markdown.Ordered
import Manuscript.Proofs.Package.Numbering

/-!
# Where the lists of a text start

An ordered list of a text starts in its package where its first marker says, unless that
says zero (`start_of_list`): the digits of the marker, the token of the list, its items and
the number that they bear all tell the same. Zero is lost where the token is made, and the
list starts from one (`not_isTokenOf_zero`).
-/

namespace Manuscript.Convert

open Manuscript.Document Manuscript.Formula Manuscript.Markdown Manuscript.Package
  Manuscript.Style Manuscript.Success

variable {σ : Type} {bridge : Bridge σ} {config : Config} {text : List Char} {s : σ} {p : Package}

/-! ## Starts -/

/-- The items of the list that a share is of bear one number, under which the package says
    where the list starts. -/
def StartsAt (shares : List Share) (p : Package) (j : Nat) (texts : List String) (start : Int) :
    Prop :=
  ∃ part num, (portions shares p.body)[j]? = some part ∧ part.length = texts.length
    ∧ num ∈ p.lists.trees ∧ startOf? num = some (toString start)
    ∧ (numberOf? num).isSome = true ∧ ∀ x ∈ part, itemNumber? x = numberOf? num

/-- A list with items starts in a package that numbers it where its token records. -/
theorem startsAt_of_isNumbered {shares : List Share} (h : IsNumbered shares p) {j : Nat}
    {texts : List String} {start : Int} (hj : (shares.map Share.token)[j]? = some (.list true texts start))
    (htexts : texts ≠ []) : StartsAt shares p j texts start := by
  have hlt : j < (portions shares p.body).length := by
    obtain ⟨hlt, -⟩ := List.getElem?_eq_some_iff.1 hj
    simpa [portions, List.length_splitLengths] using hlt
  have hpart := List.getElem?_eq_getElem hlt
  have hlength := h.length_items _ _ _ _ _ hj hpart
  -- Any item tells the number of the list, and all of them tell the same.
  obtain ⟨x, hx⟩ : ∃ x, x ∈ (portions shares p.body)[j] := by
    refine List.exists_mem_of_ne_nil _ fun hnil => htexts ?_
    rw [hnil] at hlength
    exact List.length_eq_zero_iff.1 hlength.symm
  obtain ⟨num, hnum, hstart, -⟩ := h.number j start x ⟨texts, _, hj, hpart, hx⟩
  have hmem := List.mem_of_getElem? hnum
  obtain ⟨n, hn, -⟩ := h.number_not_mem num hmem
  refine ⟨_, num, hpart, hlength, hmem, hstart, by rw [hn]; rfl, fun y hy => ?_⟩
  obtain ⟨num', hnum', -, hy⟩ := h.number j start y ⟨texts, _, hj, hpart, hy⟩
  rw [hnum] at hnum'
  rw [hy, Option.some.inj hnum']

theorem itemTexts_ne_nil {items : List (List Markdown.Block)} (h : items ≠ []) : itemTexts items ≠ [] := by
  cases items with
  | nil => exact absurd rfl h
  | cons body rest => exact List.cons_ne_nil _ _

/-- An ordered list of a text is opened by digits. Its token and its package record where it
    starts: where the digits say, except that zero is recorded as one. -/
theorem start_of_list (text : List Char) (k line n : Nat) (items : List (List Markdown.Block))
    (hk : ((Markdown.Block.ofText text).filter Markdown.Block.isShown)[k]?
      = some (.list line (some n) items)) :
    OpensList text line n
    ∧ (∀ stream, (tokenize text).1 = .ok stream →
        ∃ j, IsTokenOf stream.tokens k j (.list true (itemTexts items) (recordedStart n)))
    ∧ (∀ (σ : Type) (bridge : Bridge σ) (config : Config) (s : σ) (p : Package),
        (convert bridge config text s).result = .ok p →
          ∃ stream s' shares j, (tokenize text).1 = .ok stream
            ∧ (sharesFrom bridge config {} stream.tokens { bridge := s' }).result = .ok shares
            ∧ assemble config ⟨shares.flatMap Share.blocks, stream.metadata⟩ = .ok p
            ∧ IsTokenOf stream.tokens k j (.list true (itemTexts items) (recordedStart n))
            ∧ StartsAt shares p j (itemTexts items) (recordedStart n))
    ∧ (recordedStart n = n ↔ n ≠ 0) := by
  have hmem := List.mem_of_mem_filter (List.mem_of_getElem? hk)
  obtain ⟨hopens, hitems⟩ := opensList_of_mem hmem
  refine ⟨hopens, fun stream h => exists_token_of_list h hk, fun σ bridge config s p h => ?_,
    recordedStart_eq_iff⟩
  obtain ⟨stream, blocks, s', hstream, hblocks, hp⟩ := exists_of_convert h
  obtain ⟨j, hj⟩ := exists_token_of_list hstream hk
  -- The composition of a text is new, so that its lists are numbered from one.
  rw [compose, composeFrom_eq, map_eq_ok_iff] at hblocks
  obtain ⟨shares, hshares, rfl⟩ := hblocks
  refine ⟨stream, s', shares, j, hstream, hshares, hp, hj, ?_⟩
  obtain ⟨htokens, hturn⟩ : shares.map Share.token = stream.tokens ∧ InTurn 0 shares := by
    cases sharesFrom_ends bridge config {} stream.tokens { lists := 0, bridge := s' } with
    | of_ok run holds =>
      rw [run] at hshares
      obtain rfl := Except.ok.inj hshares
      refine ⟨holds.1, ?_⟩
      have hturn := holds.2.2 [] .nil
      rwa [List.append_nil] at hturn
    | of_error run =>
      rw [run] at hshares
      cases hshares
  refine startsAt_of_isNumbered (isNumbered_of_inTurn hturn hp) ?_ (itemTexts_ne_nil hitems)
  rw [htokens]
  exact hj.1

/-- A list that starts at seven, below a paragraph. -/
theorem start_of_list_seven :
    ∃ items, ((Markdown.Block.ofText "a\n\n007) b".toList).filter Markdown.Block.isShown)[1]?
        = some (.list 2 (some 7) items)
      ∧ OpensList "a\n\n007) b".toList 2 7
      ∧ (∃ stream j, (tokenize "a\n\n007) b".toList).1 = .ok stream
        ∧ IsTokenOf stream.tokens 1 j (.list true (itemTexts items) 7))
      ∧ ∃ p shares j, (convert (rejecting "x") .standard "a\n\n007) b".toList ()).result = .ok p
        ∧ StartsAt shares p j (itemTexts items) 7 := by
  obtain ⟨b, hb, hopening⟩ := Option.map_eq_some_iff.1 (by decide +kernel :
    ((Markdown.Block.ofText "a\n\n007) b".toList).filter Markdown.Block.isShown)[1]?.map
      Markdown.Block.opening = some (.enter .orderedList 2 0 (some 7) none))
  obtain ⟨items, rfl⟩ := exists_of_opening hopening
  obtain ⟨stream, hstream⟩ : ∃ stream, (tokenize "a\n\n007) b".toList).1 = .ok stream :=
    exists_eq_ok (by decide +kernel)
  obtain ⟨p, hp⟩ : ∃ p, (convert (rejecting "x") .standard "a\n\n007) b".toList ()).result = .ok p :=
    exists_eq_ok (by decide +kernel)
  obtain ⟨hopens, htoken, hpackage, -⟩ := start_of_list _ 1 2 7 items hb
  obtain ⟨j, hj⟩ := htoken stream hstream
  obtain ⟨_, _, shares, j', -, -, -, -, hstarts⟩ := hpackage _ _ _ _ _ hp
  exact ⟨items, hb, hopens, ⟨stream, j, hstream, hj⟩, p, shares, j', hp, hstarts⟩

/-- A list whose first marker writes zero starts from one, both in its token and in its
    package. -/
theorem not_isTokenOf_zero :
    ∃ items, ((Markdown.Block.ofText "0. a".toList).filter Markdown.Block.isShown)[0]?
        = some (.list 0 (some 0) items)
      ∧ OpensList "0. a".toList 0 0
      ∧ (∃ stream, (tokenize "0. a".toList).1 = .ok stream
        ∧ ¬ ∃ j, IsTokenOf stream.tokens 0 j (.list true (itemTexts items) 0))
      ∧ (convert (rejecting "x") .standard "0. a".toList ()).result.map
          (fun p => p.lists.trees.map startOf?) = .ok [some "1"] := by
  obtain ⟨b, hb, hopening⟩ := Option.map_eq_some_iff.1 (by decide +kernel :
    ((Markdown.Block.ofText "0. a".toList).filter Markdown.Block.isShown)[0]?.map
      Markdown.Block.opening = some (.enter .orderedList 0 0 (some 0) none))
  obtain ⟨items, rfl⟩ := exists_of_opening hopening
  obtain ⟨hopens, hitems⟩ := opensList_of_mem (List.mem_of_mem_filter (List.mem_of_getElem? hb))
  obtain ⟨stream, hstream, hstarts⟩ := map_eq_ok_iff.1 (by decide +kernel :
    (tokenize "0. a".toList).1.map (fun stream => stream.tokens.map Token.start?) = .ok [some 1])
  refine ⟨items, hb, hopens, ⟨stream, hstream, ?_⟩, by decide +kernel⟩
  rintro ⟨j, hj, -⟩
  -- The one token of the text starts at one, whatever its items are.
  have hstart : (stream.tokens.map Token.start?)[j]? = some (some 0) := by
    rw [List.getElem?_map, hj]
    cases htexts : itemTexts items with
    | nil => exact absurd htexts (itemTexts_ne_nil hitems)
    | cons text rest => rfl
  rw [hstarts] at hstart
  cases j with
  | zero => exact absurd (Option.some.inj hstart) (by decide)
  | succ j => cases hstart

end Manuscript.Convert
