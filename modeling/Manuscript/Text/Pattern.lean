import Manuscript.Text.Blank

/-!
# Patterns

Regular patterns of text, matched by derivatives: the derivative of a pattern by a
character is the pattern of what may follow that character. `Pattern.fits` asks
whether a whole text has the pattern, `Pattern.fitsStart` whether a text begins with
one that has it.
-/

namespace Manuscript.Text

/-- A class of characters. -/
inductive CharClass where
  /-- The characters in one of some ranges. -/
  | within (ranges : List (Char × Char))
  /-- The characters in none of some ranges. -/
  | outside (ranges : List (Char × Char))
  /-- The blanks. -/
  | blank
  deriving DecidableEq, Repr

/-- Whether a character is in one of some ranges. -/
def inRanges (ranges : List (Char × Char)) (c : Char) : Bool :=
  ranges.any fun (low, high) => low ≤ c && c ≤ high

/-- Whether a character belongs to a class. -/
def CharClass.has : CharClass → Char → Bool
  | within ranges, c => inRanges ranges c
  | outside ranges, c => !inRanges ranges c
  | blank, c => isBlank c

/-- A regular pattern. -/
inductive Pattern where
  | nothing
  | empty
  | one (k : CharClass)
  | seq (a b : Pattern)
  | alt (a b : Pattern)
  | star (a : Pattern)
  deriving DecidableEq, Repr

namespace Pattern

/-- Whether the empty text has the pattern. -/
def nullable : Pattern → Bool
  | nothing | one _ => false
  | empty | star _ => true
  | seq a b => a.nullable && b.nullable
  | alt a b => a.nullable || b.nullable

/-- One pattern after the other, simplified. -/
def andThen : Pattern → Pattern → Pattern
  | nothing, _ => nothing
  | _, nothing => nothing
  | empty, b => b
  | a, b => seq a b

/-- Whether a pattern is among the alternatives of another. -/
def isAmong (a : Pattern) : Pattern → Bool
  | alt b c => a == b || isAmong a c
  | b => a == b

/-- Either pattern, simplified: no alternative stands twice. -/
def orElse : Pattern → Pattern → Pattern
  | nothing, b => b
  | alt a a', b => orElse a (orElse a' b)
  | a, nothing => a
  | a, b => if isAmong a b then b else alt a b

/-- What may follow a character. -/
def derive (c : Char) : Pattern → Pattern
  | nothing | empty => nothing
  | one k => if k.has c then empty else nothing
  | seq a b =>
    let first := (derive c a).andThen b
    if a.nullable then first.orElse (derive c b) else first
  | alt a b => (derive c a).orElse (derive c b)
  | star a => (derive c a).andThen (star a)

/-- Whether a whole text has the pattern. -/
def fits : Pattern → List Char → Bool
  | p, [] => p.nullable
  | p, c :: cs => fits (derive c p) cs

/-- Whether a text begins with one that has the pattern. -/
def fitsStart : Pattern → List Char → Bool
  | p, [] => p.nullable
  | p, c :: cs => p.nullable || fitsStart (derive c p) cs

/-! ## Making patterns -/

/-- One character out of some ranges. -/
def range (ranges : List (Char × Char)) : Pattern := one (.within ranges)

/-- One character out of some. -/
def oneOf (cs : List Char) : Pattern := one (.within (cs.map fun c => (c, c)))

/-- A given text. -/
def literal (s : String) : Pattern := s.toList.foldr (fun c p => (oneOf [c]).andThen p) empty

/-- A given text in any mixture of small and capital letters. The long s, the Kelvin
    sign and the dotted and dotless forms of the letter i count as small letters. -/
def anyCase (s : String) : Pattern :=
  s.toList.foldr (fun c p => (oneOf (forms c)).andThen p) empty
where
  /-- The forms of a small letter. -/
  forms (c : Char) : List Char :=
    [c, c.toUpper] ++
      (if c = 's' then ['\u017f'] else if c = 'k' then ['\u212a']
       else if c = 'i' then ['\u0130', '\u0131'] else [])

/-- Patterns one after the other. -/
def all (ps : List Pattern) : Pattern := ps.foldr andThen empty

/-- Any of some patterns. -/
def any (ps : List Pattern) : Pattern := ps.foldr orElse nothing

/-- A pattern or nothing. -/
def optional (p : Pattern) : Pattern := orElse p empty

/-- A pattern once or more. -/
def some (p : Pattern) : Pattern := p.andThen (star p)

/-- A pattern so many times. -/
def times : Nat → Pattern → Pattern
  | 0, _ => empty
  | n + 1, p => p.andThen (times n p)

/-- A decimal digit. -/
def digit : Pattern := range [('0', '9')]

end Pattern

end Manuscript.Text
