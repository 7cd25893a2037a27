import Manuscript.Document.Block
import Manuscript.Document.Kind

/-!
# Spacers

Where blank lines separate two blocks, an empty paragraph goes between them. A
coordinator sees the kinds of the blocks one by one and decides: a blank kind after
another kind gives a spacer, unless it belongs to a run of blank kinds that has given
one.

* `observe_of_ne`, `observe_blankKind`, `observe_blankKind_of_ne`: what one kind comes to.
-/

namespace Manuscript.Document

/-- The measures of a spacer. -/
def spacerSpacing : Spacing := { before := .int 80, after := .int 80 }

/-- The kind that stands for blank lines. -/
def blankKind : String := Kind.space.name

/-- What is remembered of the kinds seen. -/
structure Coordinator where
  /-- The kind seen last. -/
  last : Option String := none
  /-- The length of the run of blank kinds at the end. -/
  breaks : Int := 0
  deriving DecidableEq, Repr, Inhabited

namespace Coordinator

/-- Whether a kind differs from the one before it; the first kind does not. -/
def changes (c : Coordinator) (kind : String) : Bool := c.last.any (· != kind)

/-- The length of the run of blank kinds that ends in `kind`. -/
def breaksAt (c : Coordinator) (kind : String) : Int :=
  if kind != blankKind then 0
  else if c.changes kind then c.breaks + 1
  else c.breaks

/-- Whether a kind gives a spacer. -/
def spaces (c : Coordinator) (kind : String) : Bool :=
  c.changes kind && kind == blankKind && c.breaksAt kind ≤ 1

/-- Sees a kind: the measures of the spacer, if it gives one, and what is remembered. -/
def observe (c : Coordinator) (kind : String) : Option Spacing × Coordinator :=
  (if c.spaces kind then some spacerSpacing else none, ⟨some kind, c.breaksAt kind⟩)

variable {c : Coordinator} {kind : String}

/-- A kind other than the blank one has no spacer, and all that was seen before it is
    forgotten. -/
theorem observe_of_ne (c : Coordinator) (h : kind ≠ blankKind) :
    c.observe kind = (none, ⟨some kind, 0⟩) := by
  have hblank : (kind == blankKind) = false := beq_eq_false_iff_ne.2 h
  simp [observe, spaces, breaksAt, bne, hblank]

/-- A blank kind that follows no kind, or another blank one, has no spacer. -/
theorem observe_blankKind (h : ∀ kind ∈ c.last, kind = blankKind) :
    c.observe blankKind = (none, ⟨some blankKind, c.breaks⟩) := by
  have hchanges : c.changes blankKind = false := by
    unfold changes
    cases hlast : c.last with
    | none => rfl
    | some kind => simp [h kind hlast]
  simp [observe, spaces, breaksAt, hchanges]

/-- A blank kind that follows another kind, with no break counted, has a spacer. -/
theorem observe_blankKind_of_ne (hbreaks : c.breaks = 0) (hlast : c.last = some kind)
    (h : kind ≠ blankKind) : c.observe blankKind = (some spacerSpacing, ⟨some blankKind, 1⟩) := by
  have hchanges : c.changes blankKind = true := by simp [changes, hlast, h]
  simp [observe, spaces, breaksAt, hchanges, hbreaks]

end Coordinator

end Manuscript.Document
